import HollerServer.Proto.Grammar
import HollerServer.Wire.Gate

/-!
# Direct answers

What a connection task writes in direct answer to one text frame, as its first
frame and in the session loop.  A frame that `decode` takes is answered under its
own id.  A frame that `decode` refuses is answered by one `error` without an id,
whose code is `unsupported_version` only where `decode` gives that reason.
-/

namespace HollerServer.Wire

open HollerServer.Proto
open HollerServer.Token

/-- An `error` whose code is `unsupported_version`. -/
def IsUnsupported (envelope : Envelope) : Prop :=
  envelope.msgType = .error ∧
    ∃ body, envelope.body = .error body ∧ body.code = codeUnsupportedVersion

/-- The store and the tables of live state are as they were. -/
structure Context.Kept (context after : Context) : Prop where
  file : after.file = context.file
  registry : after.registry = context.registry
  roster : after.roster = context.roster
  talkLog : after.talkLog = context.talkLog

theorem Context.Kept.refl (context : Context) : context.Kept context where
  file := rfl
  registry := rfl
  roster := rfl
  talkLog := rfl

/-- A frame of the session loop is refused for its version: one `error` is
written and the loop ends. -/
structure Handled.Refuses (context : Context) (handled : Handled) : Prop where
  answered :
    ∃ envelope, handled.written = [.text envelope] ∧ IsUnsupported envelope
  closed : handled.proceed = false
  kept : context.Kept handled.context

/-- A first frame is refused for its version: one `error` is written and the task
returns. -/
structure ConnectionRun.Refuses
    (context : Context) (run : ConnectionRun) : Prop where
  answered :
    ∃ envelope, run.written = [.text envelope] ∧ IsUnsupported envelope
  closed : run.returned = true
  kept : context.Kept run.context

theorem isUnsupported_decodeErrorEnvelope (error : DecodeError) :
    IsUnsupported (decodeErrorEnvelope error) ↔
      verdictOf (.error error) = .unsupportedVersion := by
  cases error <;>
    simp [IsUnsupported, decodeErrorEnvelope, errorWithMessage,
      newErrorEnvelope, codeUnsupportedVersion, codeUnknownType, verdictOf]

section Frames

variable {settings : Settings} {environment : Environment}
  {context : Context} {raw : String}

/-- The session loop refuses a frame for its version exactly when `decode`
does. -/
theorem handleFrame_refuses_iff
    (tokenId clientId : String) (clock : Nat → Nat) (ts : String) :
    (context.handleFrame settings tokenId clientId raw clock ts).Refuses
        context ↔
      verdictOf (decode settings.serde raw) = .unsupportedVersion := by
  cases decoded : decode settings.serde raw with
  | error error =>
      rw [← isUnsupported_decodeErrorEnvelope]
      constructor
      · intro refused
        obtain ⟨envelope, written, unsupported⟩ := refused.answered
        simp only [Context.handleFrame, decoded, List.cons.injEq,
          Written.text.injEq, and_true] at written
        rwa [written]
      · intro unsupported
        exact
          { answered :=
              ⟨decodeErrorEnvelope error,
                by simp [Context.handleFrame, decoded], unsupported⟩
            closed := by simp [Context.handleFrame, decoded]
            kept := by
              simp only [Context.handleFrame, decoded]
              exact Context.Kept.refl context }
  | ok envelope =>
      constructor
      · intro refused
        have closed := refused.closed
        simp [Context.handleFrame, decoded] at closed
      · intro unsupported
        simp [verdictOf] at unsupported

theorem not_isUnsupported_error
    {code message replyId sender : String}
    (other : code ≠ codeUnsupportedVersion) :
    ¬IsUnsupported (errorWithMessage code message replyId sender) := by
  rintro ⟨_, body, same, unsupported⟩
  cases same
  exact other unsupported

variable {reply : Envelope}

/-- A join is not answered by `unsupported_version`. -/
theorem not_isUnsupported_handleJoin
    {envelope : Envelope} {secret hostname : String}
    (written :
      (context.handleJoin settings environment envelope secret
        hostname).written = [.text reply]) :
    ¬IsUnsupported reply := by
  unfold Context.handleJoin at written
  simp only at written
  split at written <;> simp at written

/-- What a served connection writes first is its `hello`. -/
theorem not_isUnsupported_serve
    {client : VerifiedClient} {rest : List Incoming}
    (written :
      (context.serve settings environment client rest).written =
        [.text reply]) :
    ¬IsUnsupported reply := by
  rintro ⟨kind, unsupported⟩
  unfold Context.serve at written
  simp only at written
  split at written
  · split at written <;>
      simp only [SessionRun.after, List.cons_append, List.nil_append,
        List.cons.injEq, Written.text.injEq] at written <;>
      rw [← written.1] at kind <;> cases kind
  · cases written

/-- A credential is answered by `unauthenticated`, or the connection is
served. -/
theorem not_isUnsupported_handleAuth
    {envelope : Envelope} {credential : String} {rest : List Incoming}
    (written :
      (context.handleAuth settings environment envelope credential
        rest).written = [.text reply]) :
    ¬IsUnsupported reply := by
  unfold Context.handleAuth at written
  simp only at written
  split at written
  · exact not_isUnsupported_serve written
  · simp only [List.cons.injEq, Written.text.injEq, and_true] at written
    rw [← written]
    exact not_isUnsupported_error (by decide)
  · cases written

/-- A first frame is refused for its version exactly when `decode` refuses
it. -/
theorem handleFirst_refuses_iff (rest : List Incoming) :
    (context.handleFirst settings environment raw rest).Refuses context ↔
      verdictOf (decode settings.serde raw) = .unsupportedVersion := by
  cases decoded : decode settings.serde raw with
  | error error =>
      rw [← isUnsupported_decodeErrorEnvelope]
      constructor
      · intro refused
        obtain ⟨envelope, written, unsupported⟩ := refused.answered
        simp only [Context.handleFirst, decoded, List.cons.injEq,
          Written.text.injEq, and_true] at written
        rwa [written]
      · intro unsupported
        simp only [Context.handleFirst, decoded]
        exact
          { answered := ⟨_, rfl, unsupported⟩
            closed := rfl
            kept := Context.Kept.refl context }
  | ok envelope =>
      constructor
      · intro refused
        obtain ⟨reply, written, unsupported⟩ := refused.answered
        simp only [Context.handleFirst, decoded] at written
        split at written
        · exact absurd unsupported (not_isUnsupported_handleJoin written)
        · split at written
          · exact absurd unsupported (not_isUnsupported_handleAuth written)
          · simp only [List.cons.injEq, Written.text.injEq, and_true]
              at written
            rw [← written] at unsupported
            exact
              absurd unsupported (not_isUnsupported_error (by decide))
        · simp only [List.cons.injEq, Written.text.injEq, and_true]
            at written
          rw [← written] at unsupported
          exact absurd unsupported (not_isUnsupported_error (by decide))
      · intro unsupported
        simp [verdictOf] at unsupported

/-- After a refused frame the session loop is over. -/
theorem sessionLoop_of_refuses
    {tokenId clientId : String} {clock : Nat → Nat} {ts : String}
    (refused :
      (context.handleFrame settings tokenId clientId raw clock ts).Refuses
        context)
    (picks : List Pick) (rest : List Incoming) :
    let run :=
      sessionLoop settings tokenId clientId (.incoming clock ts :: picks)
        (.message (.text raw) :: rest) context
    run.ended = some false ∧ context.Kept run.context ∧
      ∃ envelope, run.written = [.text envelope] ∧ IsUnsupported envelope := by
  have closed := refused.closed
  simp only [sessionLoop, closed, Bool.false_eq_true, if_false]
  exact ⟨trivial, refused.kept, refused.answered⟩

end Frames

section Versions

variable {serde : SerdeJson} {raw : String}
  {fields : List (String × Value)}

/-- A `hello` that cannot speak version 1. -/
def asksLater (fields : List (String × Value)) : Bool :=
  knownType fields = some .hello ∧
    (fields.lookup "body").any fun body =>
      match body with
      | .object entries =>
          (entries.lookup "protocol_min").any fun least =>
            match least with
            | .int least => 1 < least
            | _ => false
      | _ => false

/-- An envelope of known type, addressed and dated, whose peer does not speak
version 1. -/
structure OtherVersion (fields : List (String × Value)) : Prop where
  known : (knownType fields).isSome = true
  id : hasText fields "id" = true
  ts : hasText fields "ts" = true
  sender : hasText fields "from" = true
  other :
    (fields.lookup "v").any Value.isOne = false ∨ asksLater fields = true

/-- A version that fits 64 bits and whose low 32 bits are not those of 1. -/
def isOtherVersion : Value → Bool
  | .int version =>
      0 ≤ version ∧ version < 2 ^ 64 ∧ version % 2 ^ 32 ≠ 1
  | _ => false

/-- The envelope has a body, and a version that is seen to be another one. -/
def showsOther (fields : List (String × Value)) : Bool :=
  (fields.lookup "v").any isOtherVersion && (fields.lookup "body").isSome

/-- `decode` gives the version of an addressed envelope as its reason exactly
when the envelope shows it. -/
theorem verdictOf_decode_unsupported_iff
    (read : serde.fromStr raw = .ok (.object fields))
    (frame : OtherVersion fields) :
    verdictOf (decode serde raw) = .unsupportedVersion ↔
      showsOther fields = true := by
  obtain ⟨msgType, known⟩ := Option.isSome_iff_exists.mp frame.known
  have incomplete
      (lacking :
        (fields.lookup "v").bind Value.asU64 = none ∨
          isFramed fields = false)
      (hidden : showsOther fields = false) :
      verdictOf (decode serde raw) = .unsupportedVersion ↔
        showsOther fields = true := by
    rw [verdictOf_decode_of_incomplete read known lacking, hidden]
    simp
  by_cases hasBody : (fields.lookup "body").isSome = true
  · have framed : isFramed fields = true := by
      simp [isFramed, frame.id, frame.ts, frame.sender, hasBody]
    have shows :
        showsOther fields = (fields.lookup "v").any isOtherVersion := by
      simp [showsOther, hasBody]
    cases hasVersion : fields.lookup "v" with
    | none =>
        rw [hasVersion] at shows incomplete
        exact incomplete (.inl rfl) shows
    | some value =>
        rw [hasVersion] at shows incomplete
        cases value with
        | int version =>
            by_cases bounds : 0 ≤ version ∧ version < 2 ^ 64
            · have asU64 :
                  (fields.lookup "v").bind Value.asU64 =
                    some version.toNat := by
                rw [hasVersion]
                exact asU64_int_of_nonneg bounds.1 bounds.2
              have other :
                  isOtherVersion (.int version) =
                    !decide (UInt32.ofNat version.toNat = 1) := by
                unfold isOtherVersion
                rw [← decide_not, decide_eq_decide,
                  ofNat_eq_one_iff bounds.1]
                omega
              rw [verdictOf_decode_of_framed read known asU64 framed, shows,
                Option.any_some, other]
              by_cases low : UInt32.ofNat version.toNat = 1
              · rw [if_pos low]
                split <;> simp [low]
              · simp [low]
            · refine incomplete (.inl (if_neg bounds)) ?_
              rw [shows]
              exact decide_eq_false fun inside =>
                bounds ⟨inside.1, inside.2.1⟩
        | null | bool _ | float _ | string _ | array _ | object _ =>
            exact incomplete (.inl rfl) shows
  · have missing : (fields.lookup "body").isSome = false :=
      Bool.eq_false_iff.mpr hasBody
    refine incomplete (.inr ?_) ?_
    · simp [isFramed, missing]
    · simp [showsOther, missing]

end Versions

/-- A frame of a peer that does not speak version 1 is refused for its version,
as a first frame and in the session loop, exactly when it has a body and a `v`
that fits 64 bits and whose low 32 bits are not those of 1; the session loop is
over then. -/
theorem other_version_refused_iff
    (settings : Settings) (environment : Environment) (context : Context)
    (tokenId clientId : String) (clock : Nat → Nat) (ts raw : String)
    (picks : List Pick) (rest : List Incoming)
    (fields : List (String × Value))
    (read : settings.serde.fromStr raw = .ok (.object fields))
    (frame : OtherVersion fields) :
    ((context.handleFirst settings environment raw rest).Refuses context ↔
      showsOther fields = true) ∧
    ((context.handleFrame settings tokenId clientId raw clock ts).Refuses
        context ↔
      showsOther fields = true) ∧
    (showsOther fields = true →
      let run :=
        sessionLoop settings tokenId clientId (.incoming clock ts :: picks)
          (.message (.text raw) :: rest) context
      run.ended = some false ∧ context.Kept run.context ∧
        ∃ envelope,
          run.written = [.text envelope] ∧ IsUnsupported envelope) := by
  have shown := verdictOf_decode_unsupported_iff read frame
  refine ⟨(handleFirst_refuses_iff rest).trans shown,
    (handleFrame_refuses_iff tokenId clientId clock ts).trans shown, ?_⟩
  intro shows
  have refused :
      (context.handleFrame settings tokenId clientId raw clock ts).Refuses
        context :=
    (handleFrame_refuses_iff tokenId clientId clock ts).mpr
      (shown.mpr shows)
  exact sessionLoop_of_refuses refused picks rest

section Echo

variable {settings : Settings} {environment : Environment}
  {context : Context} {raw id : String} {fields : List (String × Value)}

/-- Every envelope that is written has the id. -/
def Echoes (id : String) (written : List Written) : Prop :=
  ∀ envelope, .text envelope ∈ written → envelope.id = id

theorem Echoes.nil : Echoes id [] := by
  intro envelope member
  cases member

theorem echoes_single_iff (envelope : Envelope) :
    Echoes id [.text envelope] ↔ envelope.id = id := by
  simp [Echoes]

/-- A decoded frame keeps the id of its text. -/
theorem id_of_decode {envelope : Envelope}
    (read : settings.serde.fromStr raw = .ok (.object fields))
    (hasId : fields.lookup "id" = some (.string id))
    (decoded : decode settings.serde raw = .ok envelope) :
    envelope.id = id := by
  obtain ⟨body, parsed, _, _⟩ := parsed_of_decode decoded
  obtain ⟨fields', version, read', _, _, _, sameId, _⟩ :=
    fields_of_parseEnvelope parsed
  rw [read] at read'
  cases read'
  rw [hasId] at sameId
  cases sameId
  rfl

theorem id_decodeErrorEnvelope (error : DecodeError) :
    (decodeErrorEnvelope error).id = "" := by
  cases error <;> rfl

/-- What the session loop answers to a decoded frame has its id. -/
theorem echoes_answers (envelope : Envelope) (now : Nat) (ts : String) :
    Echoes envelope.id (context.answers settings envelope now ts) := by
  unfold Context.answers
  split
  · rw [echoes_single_iff]
    unfold Context.queryReply
    simp only
    split <;> rfl
  · rw [echoes_single_iff]
    rfl
  · exact Echoes.nil

theorem echoes_handleJoin (envelope : Envelope) (secret hostname : String) :
    Echoes envelope.id
      (context.handleJoin settings environment envelope secret
        hostname).written := by
  unfold Context.handleJoin
  simp only
  split
  · simp [Echoes]
  · simp [Echoes, errorWithMessage, newErrorEnvelope]
  · exact Echoes.nil

/-- What is written for a credential that was not accepted has the id of its
frame. -/
theorem echoes_handleAuth
    {envelope : Envelope} {credential : String} {rest : List Incoming}
    (rejected :
      (context.handleAuth settings environment envelope credential
        rest).verified = none) :
    Echoes envelope.id
      (context.handleAuth settings environment envelope credential
        rest).written := by
  unfold Context.handleAuth at rejected ⊢
  simp only at rejected ⊢
  split at rejected
  · rw [Context.verified_serve] at rejected
    cases rejected
  · rw [echoes_single_iff]
    rfl
  · exact Echoes.nil

/-- What is written for a decoded first frame has its id, unless its credential
was accepted. -/
theorem echoes_handleFirst
    {envelope : Envelope} {rest : List Incoming}
    (decoded : decode settings.serde raw = .ok envelope)
    (rejected :
      (context.handleFirst settings environment raw rest).verified = none) :
    Echoes envelope.id
      (context.handleFirst settings environment raw rest).written := by
  simp only [Context.handleFirst, decoded] at rejected ⊢
  split at rejected
  · exact echoes_handleJoin envelope _ _
  · split at rejected
    · exact echoes_handleAuth rejected
    · rw [echoes_single_iff]
      rfl
  · rw [echoes_single_iff]
    rfl

/-- The direct answers to a text frame with an id, as a first frame whose
credential is not accepted and in the session loop, have that id exactly when
`decode` takes the frame or the id is empty. -/
theorem direct_answers_echo_iff
    (settings : Settings) (environment : Environment) (context : Context)
    (tokenId clientId : String) (clock : Nat → Nat) (ts raw id : String)
    (rest : List Incoming) (fields : List (String × Value))
    (read : settings.serde.fromStr raw = .ok (.object fields))
    (hasId : fields.lookup "id" = some (.string id)) :
    (((context.handleFirst settings environment raw rest).verified = none →
        Echoes id
          (context.handleFirst settings environment raw rest).written) ↔
      verdictOf (decode settings.serde raw) = .accepted ∨ id = "") ∧
    (Echoes id
        (context.handleFrame settings tokenId clientId raw clock
          ts).written ↔
      verdictOf (decode settings.serde raw) = .accepted ∨ id = "") := by
  cases decoded : decode settings.serde raw with
  | error error =>
      have refused :
          verdictOf (.error error) = .accepted ∨ id = "" ↔
            (decodeErrorEnvelope error).id = id := by
        rw [id_decodeErrorEnvelope]
        cases error <;> simp [verdictOf, eq_comm]
      rw [refused]
      simp [Context.handleFirst, Context.handleFrame, decoded,
        echoes_single_iff]
  | ok envelope =>
      have same := id_of_decode read hasId decoded
      subst same
      have accepted :
          verdictOf (.ok envelope) = .accepted ∨ envelope.id = "" :=
        .inl rfl
      have first :
          (context.handleFirst settings environment raw rest).verified =
              none →
            Echoes envelope.id
              (context.handleFirst settings environment raw rest).written :=
        echoes_handleFirst decoded
      have later :
          Echoes envelope.id
            (context.handleFrame settings tokenId clientId raw clock
              ts).written := by
        simp only [Context.handleFrame, decoded]
        exact echoes_answers envelope _ ts
      exact ⟨iff_of_true first accepted, iff_of_true later accepted⟩

end Echo

namespace Sample

open HollerServer.Token.Sample

/-- An envelope of the sample token. -/
def envelopeFields
    (kind id : String) (body : Value) (version : List (String × Value)) :
    List (String × Value) :=
  [("body", body), ("from", .string tokenId), ("id", .string id),
    ("ts", .string "2023-11-14T22:13:20Z"), ("type", .string kind)] ++
    version

/-- The text of an envelope; `version` is its text for `v`, with a comma. -/
def envelopeText (kind id body version : String) : String :=
  "\x7b" ++ version ++ "\"type\":" ++ quoted kind ++ ",\"id\":" ++
    quoted id ++ ",\"ts\":\"2023-11-14T22:13:20Z\",\"from\":" ++
    quoted tokenId ++ ",\"body\":" ++ body ++ "\x7d"

def laterText : String :=
  envelopeText "ping" "p2" "\x7b\x7d" "\"v\":2,"

def laterFields : List (String × Value) :=
  envelopeFields "ping" "p2" (.object []) [("v", .int 2)]

def unversionedText : String :=
  envelopeText "ping" "p3" "\x7b\x7d" ""

def unversionedFields : List (String × Value) :=
  envelopeFields "ping" "p3" (.object []) []

def laterHelloText : String :=
  envelopeText "hello" "h3"
    ("\x7b\"protocol\":2,\"protocol_min\":2,\"protocol_max\":2," ++
      "\"role\":\"client\",\"hostname\":\"laptop\"\x7d") "\"v\":1,"

def laterHelloFields : List (String × Value) :=
  envelopeFields "hello" "h3"
    (.object
      [("hostname", .string "laptop"), ("protocol", .int 2),
        ("protocol_max", .int 2), ("protocol_min", .int 2),
        ("role", .string "client")])
    [("v", .int 1)]

noncomputable def versionSettings : Settings :=
  { settings with
    serde :=
      .ofTable
        [(laterText, .object laterFields),
          (unversionedText, .object unversionedFields),
          (laterHelloText, .object laterHelloFields)] }

/-- A ping of version 2 is refused for its version. -/
theorem other_version_refused_iff_laterText :
    OtherVersion laterFields ∧
      (context.handleFirst versionSettings environment laterText []).Refuses
        context ∧
      (context.handleFrame versionSettings tokenId clientId laterText
        (fun _ => 0) "").Refuses context := by
  have frame : OtherVersion laterFields :=
    { known := by decide
      id := by decide
      ts := by decide
      sender := by decide
      other := .inl (by decide) }
  have shows : showsOther laterFields = true := by decide
  obtain ⟨first, later, _⟩ :=
    other_version_refused_iff versionSettings environment context tokenId
      clientId (fun _ => 0) "" laterText [] [] laterFields rfl frame
  exact ⟨frame, first.mpr shows, later.mpr shows⟩

theorem fromStr_laterHelloText :
    versionSettings.serde.fromStr laterHelloText =
      .ok (.object laterHelloFields) := by
  have apart : (laterHelloText == laterText) = false := by decide +kernel
  have apart' : (laterHelloText == unversionedText) = false := by
    decide +kernel
  simp [versionSettings, SerdeJson.ofTable, List.lookup_cons, apart, apart']

theorem decode_laterHelloText :
    ∃ hello,
      decode versionSettings.serde laterHelloText =
        .ok
          { v := 1
            msgType := .hello
            id := "h3"
            ts := "2023-11-14T22:13:20Z"
            sender := tokenId
            body := .hello hello } := by
  unfold decode parseEnvelope
  rw [fromStr_laterHelloText]
  exact ⟨_, rfl⟩

/-- A frame without `v` is answered by `unknown_type`; a `hello` whose
`protocol_min` is 2 is not answered, and the session goes on. -/
theorem other_version_not_refused :
    OtherVersion unversionedFields ∧
      (context.handleFrame versionSettings tokenId clientId unversionedText
        (fun _ => 0) "").written =
        [.text
          (errorWithMessage codeUnknownType
            "malformed frame: missing or non-numeric `v`" "" "server")] ∧
      ¬(context.handleFrame versionSettings tokenId clientId
        unversionedText (fun _ => 0) "").Refuses context ∧
      OtherVersion laterHelloFields ∧
      (context.handleFrame versionSettings tokenId clientId laterHelloText
        (fun _ => 0) "").written = [] ∧
      (context.handleFrame versionSettings tokenId clientId laterHelloText
        (fun _ => 0) "").proceed = true := by
  have malformed :
      decode versionSettings.serde unversionedText =
        .error (.malformed "missing or non-numeric `v`") :=
    rfl
  obtain ⟨hello, decoded⟩ := decode_laterHelloText
  refine ⟨⟨by decide, by decide, by decide, by decide, .inl (by decide)⟩,
    ?_, ?_,
    ⟨by decide, by decide, by decide, by decide, .inr (by decide)⟩,
    ?_, ?_⟩
  · simp [Context.handleFrame, malformed, decodeErrorEnvelope]
  · rw [handleFrame_refuses_iff, malformed]
    simp [verdictOf]
  · simp [Context.handleFrame, decoded, Context.answers]
  · simp [Context.handleFrame, decoded]

/-- A `hello` in the place of a first frame is answered under its id. -/
theorem direct_answers_echo_iff_laterHelloText :
    Echoes "h3"
        (context.handleFirst versionSettings environment laterHelloText
          []).written ∧
      Echoes "h3"
        (context.handleFrame versionSettings tokenId clientId
          laterHelloText (fun _ => 0) "").written := by
  obtain ⟨hello, decoded⟩ := decode_laterHelloText
  have accepted :
      verdictOf (decode versionSettings.serde laterHelloText) = .accepted ∨
        "h3" = "" := by
    rw [decoded]
    exact .inl rfl
  have rejected :
      (context.handleFirst versionSettings environment laterHelloText
        []).verified = none := by
    simp [Context.handleFirst, decoded]
  obtain ⟨first, later⟩ :=
    direct_answers_echo_iff versionSettings environment context tokenId
      clientId (fun _ => 0) "" laterHelloText "h3" [] laterHelloFields
      fromStr_laterHelloText rfl
  exact ⟨first.mpr accepted rejected, later.mpr accepted⟩

/-- The ping of version 2 has the id `p2`; its answer has none. -/
theorem refusal_has_no_id :
    versionSettings.serde.fromStr laterText = .ok (.object laterFields) ∧
      laterFields.lookup "id" = some (.string "p2") ∧
      (context.handleFirst versionSettings environment laterText
        []).verified = none ∧
      ¬Echoes "p2"
        (context.handleFirst versionSettings environment laterText
          []).written ∧
      ¬Echoes "p2"
        (context.handleFrame versionSettings tokenId clientId laterText
          (fun _ => 0) "").written := by
  have refused :
      decode versionSettings.serde laterText =
        .error (.unsupportedVersion 2) :=
    rfl
  refine ⟨rfl, rfl, ?_, ?_, ?_⟩
  · simp [Context.handleFirst, refused]
  · simp [Context.handleFirst, refused, echoes_single_iff,
      id_decodeErrorEnvelope]
  · simp [Context.handleFrame, refused, echoes_single_iff,
      id_decodeErrorEnvelope]

end Sample

end HollerServer.Wire
