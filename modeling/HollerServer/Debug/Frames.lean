import HollerServer.Debug.Event
import HollerServer.Wire.RoundTrip

/-!
# Frames of the log

The frame an event carries is a redacted JSON text.  It is the text of the value
with its strings and keys redacted, so that it is read again when a JSON line is
rendered.
-/

namespace HollerServer.Debug

open HollerServer.Proto HollerServer.Wire

/-- What the log relies on of serde_json.  The text of a double has the characters
of a number; the text of a value that nests less deep than the limit is read, as an
ordered map holds it, where a double may be read as a neighbouring one. -/
structure ReadsWritten
    (serde : SerdeJson) (isDouble : String → Bool) (reread : String → String) :
    Prop where
  doubles : Value.AreNumbers isDouble
  reads :
    ∀ value : Value, value.hasNumbers isMachineInt isDouble = true →
      value.depth < 128 →
      serde.fromStr value.compact = .ok (normal (value.mapDoubles reread))

/-- The reader of compact texts reads what has no doubles. -/
theorem readsWritten_compactSerde :
    ReadsWritten compactSerde (fun _ => false) id where
  doubles := by
    intro literal impossible
    cases impossible
  reads := by
    intro value numbers shallow
    rw [Value.hasNumbers_eq_isIntegral] at numbers
    rw [Value.mapDoubles_of_isIntegral value numbers]
    exact readsBack_compactSerde value numbers shallow

section Redaction

variable {serde : SerdeJson} {isDouble : String → Bool} {reread : String → String}

/-- Redacting the text of a value redacts its strings and keys. -/
theorem redacted_compact
    (reads : ReadsWritten serde isDouble reread) {value : Value}
    (numbers : value.hasNumbers isMachineInt isDouble = true) :
    redacted value.compact = (value.mapText redacted).compact := by
  have covered := redacted_write reads.doubles value numbers
  have spec := (redacted_spec value.compact).2
  refine String.toList_inj.mp ?_
  unfold Value.compact at spec ⊢
  rw [String.toList_ofList] at spec ⊢
  exact covered.unique spec

/-- Redaction commutes with serialization: the text of a frame is that of the value
with its strings and keys redacted.  Below the nesting limit it is read again when a
JSON line is rendered, and no string or key of it holds a secret. -/
theorem redaction_commutes_with_json
    (reads : ReadsWritten serde isDouble reread) (value : Value)
    (numbers : value.hasNumbers isMachineInt isDouble = true) :
    redactHlrTokens value.compact = .ok (value.mapText redacted).compact ∧
      (∀ event : Event, event.cfg.level = .noisy →
        (event.frameOf (some value)).frame =
          some (value.mapText redacted).compact) ∧
      (value.depth < 128 →
        ∃ read,
          serde.fromStr (value.mapText redacted).compact = .ok read ∧
            Event.frameValue serde (value.mapText redacted).compact = read) ∧
      ∀ text ∈ (value.mapText redacted).texts, ¬HoldsSecret text := by
  have same := redacted_compact reads numbers
  refine ⟨?_, ?_, ?_, ?_⟩
  · rw [← same]
    exact (redacted_spec value.compact).1
  · intro event noisy
    rw [← same]
    unfold Event.frameOf
    rw [if_pos noisy]
  · intro shallow
    have read :=
      reads.reads (value.mapText redacted)
        (by rw [Value.hasNumbers_mapText]; exact numbers)
        (by rw [Value.depth_mapText]; exact shallow)
    refine ⟨_, read, ?_⟩
    unfold Event.frameValue
    rw [read]
  · intro text isMember
    rw [Value.texts_mapText] at isMember
    obtain ⟨original, _, rfl⟩ := List.mem_map.mp isMember
    exact not_holdsSecret_redacted original

end Redaction

/-- A value with a secret in a key and in a string that also holds a quote. -/
def taintedValue : Value :=
  .object
    [("hlr_key", .array [.string "say \"hlr_A-1\"", .int 3]),
      ("done", .bool true)]

theorem redaction_commutes_with_json_tainted :
    taintedValue.hasNumbers isMachineInt (fun _ => false) = true ∧
      taintedValue.depth = 2 ∧
      redactHlrTokens taintedValue.compact =
        .ok (taintedValue.mapText redacted).compact := by
  have numbers :
      taintedValue.hasNumbers isMachineInt (fun _ => false) = true := by
    decide
  exact ⟨numbers, by decide,
    (redaction_commutes_with_json readsWritten_compactSerde taintedValue
      numbers).1⟩

example :
    (redacted taintedValue.compact) =
      "\x7b\"[redacted]\":[\"say \\\"[redacted]\\\"\",3],\"done\":true\x7d" := by
  decide

end HollerServer.Debug
