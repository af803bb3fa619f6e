import HollerServer.Proto.Pretty
import HollerServer.Wire.RoundTrip
import HollerServer.Wire.TalkLog

/-!
# The JSON of the talk log

The derived `Serialize` and `Deserialize` of the entries of a talk file, over
the pretty JSON text of a value.  The entries come back from their text.
-/

namespace HollerServer.Wire

open HollerServer.Proto

/-- An optional field that is always written. -/
def nullable {α : Type} (write : α → Value) : Option α → Value
  | none => .null
  | some value => write value

def replyRecordFields (record : TalkReplyRecord) :
    List (String × Option Value) :=
  [("text", some (nullable .string record.text)),
    ("chunks", some (jsonStrings record.chunks)),
    ("done", some (.bool record.done)),
    ("exit", some (nullable (fun code => .int code.toInt) record.exit)),
    ("ts", textField record.ts)]

def replyRecordValue (record : TalkReplyRecord) : Value :=
  structValue (replyRecordFields record)

def talkEntryFields (entry : TalkEntry) : List (String × Option Value) :=
  [("id", textField entry.id),
    ("session", textField entry.session),
    ("prompt_text", textField entry.promptText),
    ("prompt_ts", textField entry.promptTs),
    ("replies", some (.array (entry.replies.map replyRecordValue)))]

def talkEntryValue (entry : TalkEntry) : Value :=
  structValue (talkEntryFields entry)

def readReplyRecord : Value → Option TalkReplyRecord :=
  readStruct 5 fun fields => do
    some
      { text := ← fields.optional 0 "text" readString
        chunks := ← fields.strings 1 "chunks"
        done := ← fields.required 2 "done" readBool
        exit := ← fields.optional 3 "exit" readI64
        ts := ← fields.required 4 "ts" readString }

def readTalkEntry : Value → Option TalkEntry :=
  readStruct 5 fun fields => do
    some
      { id := ← fields.required 0 "id" readString
        session := ← fields.required 1 "session" readString
        promptText := ← fields.required 2 "prompt_text" readString
        promptTs := ← fields.required 3 "prompt_ts" readString
        replies :=
          ← fields.defaulted 4 "replies" (readVec readReplyRecord) [] }

/-- The value of a pretty text, as a map holds it. -/
def fromPretty (text : String) : Option Value :=
  (Value.ofPretty text).map normal

theorem fromPretty_pretty {value : Value}
    (integral : value.isIntegral isMachineInt = true) :
    fromPretty value.pretty = some (normal value) := by
  rw [fromPretty, Value.ofPretty_pretty integral, Option.map_some]

/-- The talk log's use of serde_json. -/
def prettyTalkJson : TalkJson where
  fromStr := fun text => (fromPretty text).bind (readVec readTalkEntry)
  toStringPretty := fun entries =>
    (Value.array (entries.map talkEntryValue)).pretty

@[simp] theorem readBackOr_nullable_text (value : Option String) :
    readBackOr (readOption readString) none
        (some (nullable .string value)) =
      some value := by
  cases value <;> rfl

@[simp] theorem readBackOr_nullable_exit (value : Option Int64) :
    readBackOr (readOption readI64) none
        (some (nullable (fun code => .int code.toInt) value)) =
      some value := by
  cases value with
  | none => rfl
  | some code => exact readBackOr_exit (some code)

theorem readReplyRecord_replyRecordValue (record : TalkReplyRecord) :
    readReplyRecord (normal (replyRecordValue record)) = some record := by
  have distinct : ((replyRecordFields record).map Prod.fst).Nodup := by
    simp [replyRecordFields]
  unfold readReplyRecord replyRecordValue
  rw [readStruct_structValue]
  simp only [required_structFields distinct,
    optional_structFields distinct, strings_structFields distinct]
  simp [replyRecordFields, List.lookup_cons]

theorem readTalkEntry_talkEntryValue (entry : TalkEntry) :
    readTalkEntry (normal (talkEntryValue entry)) = some entry := by
  have distinct : ((talkEntryFields entry).map Prod.fst).Nodup := by
    simp [talkEntryFields]
  have replies :
      readBackOr (readVec readReplyRecord) []
          (some (.array (entry.replies.map replyRecordValue))) =
        some entry.replies :=
    readVec_map readReplyRecord_replyRecordValue entry.replies
  unfold readTalkEntry talkEntryValue
  rw [readStruct_structValue]
  simp only [required_structFields distinct,
    defaulted_structFields distinct]
  simp [talkEntryFields, List.lookup_cons, replies]

theorem isIntegral_replyRecordValue (record : TalkReplyRecord) :
    (replyRecordValue record).isIntegral isMachineInt = true := by
  have text :
      (nullable .string record.text).isIntegral isMachineInt = true := by
    cases record.text <;> rfl
  have exit :
      (nullable (fun code : Int64 => .int code.toInt)
        record.exit).isIntegral isMachineInt = true := by
    cases record.exit with
    | none => rfl
    | some code => exact isMachineInt_i64 code
  simp [replyRecordValue, replyRecordFields, text, exit, Value.isIntegral]

theorem isIntegral_talkEntryValue (entry : TalkEntry) :
    (talkEntryValue entry).isIntegral isMachineInt = true := by
  have replies :
      (Value.array
        (entry.replies.map replyRecordValue)).isIntegral isMachineInt =
        true := by
    refine (areIntegral_iff _).mpr ?_
    intro item member
    obtain ⟨record, _, rfl⟩ := List.mem_map.mp member
    exact isIntegral_replyRecordValue record
  simp [talkEntryValue, talkEntryFields, replies]

theorem roundTrips_prettyTalkJson : prettyTalkJson.RoundTrips := by
  intro entries
  have integral :
      (Value.array (entries.map talkEntryValue)).isIntegral
        isMachineInt = true := by
    refine (areIntegral_iff _).mpr ?_
    intro item member
    obtain ⟨entry, _, rfl⟩ := List.mem_map.mp member
    exact isIntegral_talkEntryValue entry
  simp only [prettyTalkJson]
  rw [fromPretty_pretty integral, Option.bind_some]
  exact readVec_map readTalkEntry_talkEntryValue entries

end HollerServer.Wire
