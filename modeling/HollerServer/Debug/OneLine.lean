import HollerServer.Debug.Frames

/-!
# One event, one line

An event is built of parts that may come from a peer.  A JSON line escapes them: it
is one line, and it reads as an object that shows the parts.  A text line writes the
identifiers and the details as they are, so it is one line exactly if none of them
breaks the line.
-/

namespace HollerServer.Debug

open HollerServer.Proto HollerServer.Wire Lines

/-- The calls of `field` for some details. -/
def Event.withFields (event : Event) (details : List (FieldKey × String)) :
    Event :=
  details.foldl (fun event detail => event.field detail.1 detail.2) event

/-- What a call site puts into an event.  Each key is given once. -/
structure Parts (isDouble : String → Bool) where
  cfg : DebugConfig
  severity : Severity
  dir : Direction
  component : Component
  kind : Kind
  id : Option String
  peer : Option String
  fields : List (FieldKey × String)
  frame : Option Value
  distinct : (fields.map Prod.fst).Nodup
  numbers :
    ∀ value ∈ frame, value.hasNumbers isMachineInt isDouble = true

namespace Parts

variable {isDouble : String → Bool}

/-- The calls of the builder in a row. -/
def build (parts : Parts isDouble) : Event :=
  let fresh :=
    newEvent parts.cfg parts.component parts.kind parts.severity parts.dir
  let identified := (parts.id.map fresh.withId).getD fresh
  let addressed := (parts.peer.map identified.withPeer).getD identified
  (addressed.withFields parts.fields).frameOf parts.frame

/-- The line is written: a debug line only if debugging is on. -/
def written (parts : Parts isDouble) : Bool :=
  parts.severity ≠ .debug || parts.cfg.isOn

end Parts

/-- The entries of an object show the identifiers and details of an event. -/
structure Shows (entries : List (String × Value)) (id peer : Option String)
    (fields : List (FieldKey × String)) : Prop where
  id : entries.lookup "id" = id.map .string
  peer : entries.lookup "peer" = peer.map .string
  fields :
    ∀ key : FieldKey,
      entries.lookup key.asStr = (fields.lookup key).map .string

/-- What is wanted of an event: the text that is written is one line; in JSON it is
the text of one object with distinct keys that shows the parts, and so does the
object it is read as. -/
def WritesOneLine {isDouble : String → Bool} (serde : SerdeJson) (now : Moment)
    (parts : Parts isDouble) : Prop :=
  ∀ line, parts.build.emit serde now = some line →
    OneLine line.toList ∧
      (parts.cfg.format = .json →
        ∃ entries,
          line = (Value.object entries).compact ∧
            (entries.map Prod.fst).Nodup ∧
            Shows entries parts.id parts.peer parts.fields ∧
            ((Value.object entries).depth < 128 →
              ∃ read,
                serde.fromStr line = .ok (.object read) ∧
                  Shows read parts.id parts.peer parts.fields))

/-- No identifier, as far as it is shown, and no detail breaks the line. -/
def UnbrokenText {isDouble : String → Bool} (parts : Parts isDouble) : Prop :=
  (∀ id ∈ parts.id, OneLine (short id)) ∧
    (∀ peer ∈ parts.peer, OneLine (short peer)) ∧
    ∀ detail ∈ parts.fields, OneLine detail.2.toList

/-- serde_json, which holds only 64-bit integers and doubles. -/
structure ReadsHeld
    (serde : SerdeJson) (isDouble : String → Bool) (reread : String → String) :
    Prop extends ReadsWritten serde isDouble reread where
  held :
    ∀ {text value}, serde.fromStr text = .ok value →
      value.hasNumbers isMachineInt isDouble = true

section Building

variable {isDouble : String → Bool}

theorem withFields_of_emits
    {event : Event} (emits : event.willEmit = true)
    (details : List (FieldKey × String)) :
    event.withFields details =
      { event with fields := event.fields ++ details } := by
  unfold Event.withFields
  induction details generalizing event with
  | nil => simp
  | cons detail details inductionHypothesis =>
      have step :
          event.field detail.1 detail.2 =
            { event with fields := event.fields ++ [detail] } := by
        unfold Event.field
        rw [if_pos emits]
      have stillEmits :
          { event with fields := event.fields ++ [detail] }.willEmit = true :=
        emits
      rw [List.foldl_cons, step, inductionHypothesis stillEmits]
      simp

theorem gate_field (event : Event) (key : FieldKey) (value : String) :
    (event.field key value).cfg = event.cfg ∧
      (event.field key value).severity = event.severity := by
  unfold Event.field
  split
  · exact ⟨rfl, rfl⟩
  · exact ⟨rfl, rfl⟩

theorem gate_withFields
    (event : Event) (details : List (FieldKey × String)) :
    (event.withFields details).cfg = event.cfg ∧
      (event.withFields details).severity = event.severity := by
  unfold Event.withFields
  induction details generalizing event with
  | nil => exact ⟨rfl, rfl⟩
  | cons detail details inductionHypothesis =>
      obtain ⟨sameCfg, sameSeverity⟩ := gate_field event detail.1 detail.2
      rw [List.foldl_cons, (inductionHypothesis _).1,
        (inductionHypothesis _).2, sameCfg, sameSeverity]
      exact ⟨rfl, rfl⟩

theorem gate_frameOf (event : Event) (rendered : Option Value) :
    (event.frameOf rendered).cfg = event.cfg ∧
      (event.frameOf rendered).severity = event.severity := by
  unfold Event.frameOf
  split
  · cases rendered <;> exact ⟨rfl, rfl⟩
  · exact ⟨rfl, rfl⟩

/-- No call of the builder changes whether the line is written. -/
theorem gate_build (parts : Parts isDouble) :
    parts.build.cfg = parts.cfg ∧
      parts.build.severity = parts.severity := by
  unfold Parts.build
  rw [(gate_frameOf _ _).1, (gate_frameOf _ _).2, (gate_withFields _ _).1,
    (gate_withFields _ _).2]
  cases parts.id <;> cases parts.peer <;> exact ⟨rfl, rfl⟩

theorem willEmit_build (parts : Parts isDouble) :
    parts.build.willEmit = parts.written := by
  unfold Event.willEmit Parts.written
  rw [(gate_build parts).1, (gate_build parts).2]
  cases parts.severity <;> rfl

/-- The event that is built for a line that is written. -/
def Parts.event (parts : Parts isDouble) : Event where
  cfg := parts.cfg
  severity := parts.severity
  dir := parts.dir
  component := parts.component
  kind := parts.kind
  id := parts.id
  peer := parts.peer
  fields := parts.fields
  frame :=
    if parts.cfg.level = .noisy then
      parts.frame.map fun value => redacted value.compact
    else none

theorem build_of_written
    {parts : Parts isDouble} (written : parts.written = true) :
    parts.build = parts.event := by
  have emits :
      ∀ id peer,
        ({ newEvent parts.cfg parts.component parts.kind parts.severity
            parts.dir with id := id, peer := peer } : Event).willEmit = true := by
    intro id peer
    rw [← written]
    unfold Event.willEmit Parts.written newEvent
    cases parts.severity <;> rfl
  have addressed :
      parts.build =
        (Event.withFields
          { newEvent parts.cfg parts.component parts.kind parts.severity
              parts.dir with id := parts.id, peer := parts.peer }
          parts.fields).frameOf parts.frame := by
    unfold Parts.build
    cases parts.id <;> cases parts.peer <;> rfl
  rw [addressed, withFields_of_emits (emits _ _)]
  unfold Event.frameOf Parts.event newEvent
  by_cases noisy : parts.cfg.level = .noisy
  · cases frame : parts.frame with
    | none => simp [noisy]
    | some value => simp [noisy]
  · simp [noisy]

end Building

section Text

/-- The characters of a timestamp. -/
def isTimeChar (char : Char) : Bool :=
  char.isDigit || char ∈ ['-', 'T', ':', '.', 'Z']

theorem timeChars_zeroPadded (width : Nat) (value : Int) :
    ∀ char ∈ zeroPadded width value, isTimeChar char = true := by
  have digits :
      ∀ char ∈ Nat.toDigits 10 value.natAbs, isTimeChar char = true := by
    intro char isMember
    unfold isTimeChar
    rw [Nat.isDigit_of_mem_toDigits (by decide) (by decide) isMember]
    rfl
  have zeros (count : Nat) :
      ∀ char ∈ List.replicate count '0', isTimeChar char = true := by
    intro char isMember
    rw [List.eq_of_mem_replicate isMember]
    rfl
  unfold zeroPadded
  simp only
  split
  · exact List.forall_mem_cons.mpr
      ⟨rfl, List.forall_mem_append.mpr ⟨zeros _, digits⟩⟩
  · exact List.forall_mem_append.mpr ⟨zeros _, digits⟩

theorem timeChars_emissionTs (now : Moment) :
    ∀ char ∈ (emissionTs now).toList, isTimeChar char = true := by
  unfold emissionTs
  rw [String.toList_ofList]
  simp only [List.forall_mem_append, List.forall_mem_cons]
  and_intros
  all_goals first
    | exact timeChars_zeroPadded _ _
    | rfl
    | exact List.forall_mem_nil _

theorem oneLine_emissionTs (now : Moment) :
    OneLine (emissionTs now).toList := by
  constructor
  · intro isMember
    cases timeChars_emissionTs now _ isMember
  · intro isMember
    cases timeChars_emissionTs now _ isMember

theorem oneLine_padded
    {width : Nat} {text : String} (oneLine : OneLine text.toList) :
    OneLine (padded width text) := by
  unfold padded
  rw [oneLine_append_iff]
  refine ⟨oneLine, ?_, ?_⟩
  · intro isMember
    cases List.eq_of_mem_replicate isMember
  · intro isMember
    cases List.eq_of_mem_replicate isMember

/-- The columns never break the line. -/
theorem oneLine_columnsText (now : Moment) (event : Event) :
    OneLine (event.columnsText now) := by
  have space {text : List Char} (oneLine : OneLine text) :
      OneLine (' ' :: text) := by
    rw [← List.singleton_append, oneLine_append_iff]
    exact ⟨by decide, oneLine⟩
  have severity : OneLine event.severity.asText.toList := by
    cases event.severity <;> decide
  have dir : OneLine event.dir.asText.toList := by
    cases event.dir <;> decide
  have component : OneLine event.component.asStr.toList := by
    cases event.component <;> decide
  have kind : OneLine event.kind.asStr.toList := by
    cases event.kind <;> decide
  unfold Event.columnsText
  rw [oneLine_append_iff, oneLine_append_iff, oneLine_append_iff,
    oneLine_append_iff]
  exact ⟨⟨⟨⟨oneLine_emissionTs now, space severity⟩, space dir⟩,
    space (oneLine_padded component)⟩, space (oneLine_padded kind)⟩

theorem oneLine_labelled_iff
    {label : String} (constant : OneLine label.toList)
    (shown : String → List Char) (value? : Option String) :
    OneLine (Event.labelled label shown value?) ↔
      ∀ value ∈ value?, OneLine (shown value) := by
  cases value? with
  | none => simp [Event.labelled, OneLine]
  | some value =>
      unfold Event.labelled
      rw [oneLine_append_iff, and_iff_right constant]
      simp

theorem oneLine_detailText_iff (detail : FieldKey × String) :
    OneLine (Event.detailText detail) ↔ OneLine detail.2.toList := by
  have key : OneLine (' ' :: detail.1.asStr.toList) := by
    cases detail.1 <;> decide
  have equals : OneLine ['='] := by decide
  unfold Event.detailText
  rw [oneLine_append_iff, and_iff_right key, ← List.singleton_append,
    oneLine_append_iff, and_iff_right equals]

/-- A text line is one line exactly if no part behind its columns breaks it. -/
theorem oneLine_renderText_iff (now : Moment) (event : Event) :
    OneLine (event.renderText now).toList ↔
      (∀ id ∈ event.id, OneLine (short id)) ∧
        (∀ peer ∈ event.peer, OneLine (short peer)) ∧
        (∀ detail ∈ event.fields, OneLine detail.2.toList) ∧
        ∀ frame ∈ event.frame, OneLine frame.toList := by
  have id : OneLine " id=".toList := by decide
  have peer : OneLine " peer=".toList := by decide
  have space : OneLine " ".toList := by decide
  unfold Event.renderText Event.detailsText
  rw [String.toList_ofList, oneLine_append_iff,
    and_iff_right (oneLine_columnsText now event), oneLine_append_iff,
    oneLine_append_iff, oneLine_append_iff, oneLine_labelled_iff id,
    oneLine_labelled_iff peer, oneLine_labelled_iff space,
    oneLine_flatMap_iff, and_assoc, and_assoc]
  simp only [oneLine_detailText_iff]

end Text

section Json

variable {serde : SerdeJson} {isDouble : String → Bool}

/-- The keys of a JSON line before the details. -/
def leadingKeys : List String :=
  ["ts", "level", "verbosity", "component", "dir", "type", "id", "peer"]

theorem asStr_notMem_leadingKeys (key : FieldKey) :
    key.asStr ∉ leadingKeys ∧ key.asStr ≠ "frame" := by
  cases key <;> decide

theorem asStr_injective : Function.Injective FieldKey.asStr := by
  intro first second same
  cases first <;> cases second <;> first | rfl | exact absurd same (by decide)

open Event

theorem keys_detailEntries (details : List (FieldKey × String)) :
    (detailEntries details).map Prod.fst =
      (details.map Prod.fst).map FieldKey.asStr := by
  unfold detailEntries
  rw [List.map_map, List.map_map]
  rfl

theorem lookup_detailEntries
    (details : List (FieldKey × String)) (key : FieldKey) :
    (detailEntries details).lookup key.asStr =
      (details.lookup key).map .string := by
  induction details with
  | nil => rfl
  | cons detail details inductionHypothesis =>
      obtain ⟨first, value⟩ := detail
      change
        ((first.asStr, Value.string value) :: detailEntries details).lookup
          key.asStr = _
      by_cases same : key = first
      · subst same
        rw [Keyed.lookup_self, Keyed.lookup_self]
        rfl
      · have apart : key.asStr ≠ first.asStr := fun equal =>
          same (asStr_injective equal)
        rw [Keyed.lookup_of_ne apart, Keyed.lookup_of_ne same,
          inductionHypothesis]

theorem keys_jsonFields (now : Moment) (event : Event) :
    (event.jsonFields serde now).map Prod.fst =
      leadingKeys ++
        (collectFields (detailEntries event.fields)).map Prod.fst ++
        ["frame"] := by
  unfold Event.jsonFields
  rw [List.map_append, List.map_append, List.map_map]
  rfl

/-- No key of a JSON line comes twice. -/
theorem nodup_jsonFields (now : Moment) (event : Event) :
    ((event.jsonFields serde now).map Prod.fst).Nodup := by
  have details :
      ∀ name ∈ (collectFields (detailEntries event.fields)).map Prod.fst,
        name ∉ leadingKeys ∧ name ≠ "frame" := by
    intro name isMember
    obtain ⟨entry, collected, rfl⟩ := List.mem_map.mp isMember
    obtain ⟨detail, _, rfl⟩ := List.mem_map.mp (mem_collectFields collected)
    exact asStr_notMem_leadingKeys detail.1
  have leading : leadingKeys.Nodup := by decide
  have noFrame : "frame" ∉ leadingKeys := by decide
  rw [keys_jsonFields, List.nodup_append, List.nodup_append]
  refine ⟨⟨leading, ?_, ?_⟩, List.nodup_singleton _, ?_⟩
  · exact nodup_keys_of_ascending (ascending_collectFields _)
  · intro first isLeading second isDetail same
    exact (details second isDetail).1 (same ▸ isLeading)
  · intro first isEarlier second isFrame same
    rw [List.mem_singleton.mp isFrame] at same
    rcases List.mem_append.mp isEarlier with isLeading | isDetail
    · exact noFrame (same ▸ isLeading)
    · exact (details first isDetail).2 same

theorem lookup_map_some (entries : List (String × Value)) (name : String) :
    ((entries.map fun (key, value) => (key, some value)).lookup name).join =
      entries.lookup name := by
  induction entries with
  | nil => rfl
  | cons entry entries inductionHypothesis =>
      obtain ⟨key, value⟩ := entry
      by_cases same : name = key
      · subst same
        rw [List.map_cons, Keyed.lookup_self, Keyed.lookup_self]
        rfl
      · rw [List.map_cons, Keyed.lookup_of_ne same, Keyed.lookup_of_ne same,
          inductionHypothesis]

theorem lookup_jsonFields_of_leading
    {now : Moment} {event : Event} {name : String} {value : Option Value}
    (leading : (event.leadingFields now).lookup name = some value) :
    (present (event.jsonFields serde now)).lookup name = value := by
  rw [lookup_present (nodup_jsonFields now event)]
  unfold Event.jsonFields
  rw [List.lookup_append, List.lookup_append, leading]
  rfl

theorem lookup_jsonFields_of_key
    (now : Moment) (event : Event) (key : FieldKey) :
    (present (event.jsonFields serde now)).lookup key.asStr =
      (collectFields (detailEntries event.fields)).lookup key.asStr := by
  obtain ⟨notLeading, notFrame⟩ := asStr_notMem_leadingKeys key
  have leading : (event.leadingFields now).lookup key.asStr = none := by
    apply Keyed.lookup_eq_none
    intro entry isMember same
    exact notLeading (same ▸ List.mem_map_of_mem (f := Prod.fst) isMember)
  rw [lookup_present (nodup_jsonFields now event)]
  unfold Event.jsonFields
  rw [List.lookup_append, List.lookup_append, leading, Option.none_or,
    Keyed.lookup_of_ne notFrame]
  rw [List.lookup_nil, Option.or_none, lookup_map_some]

/-- The object of a JSON line shows the identifiers and details. -/
theorem shows_jsonFields
    (now : Moment) {event : Event}
    (distinct : (event.fields.map Prod.fst).Nodup) :
    Shows (present (event.jsonFields serde now)) event.id event.peer
      event.fields where
  id := lookup_jsonFields_of_leading rfl
  peer := lookup_jsonFields_of_leading rfl
  fields := by
    intro key
    have distinctKeys :
        ((detailEntries event.fields).map Prod.fst).Nodup := by
      rw [keys_detailEntries]
      exact distinct.map asStr_injective
    rw [lookup_jsonFields_of_key, lookup_collectFields distinctKeys,
      lookup_detailEntries]

theorem lookup_mapFieldsDoubles
    (reread : String → String) (entries : List (String × Value))
    (name : String) :
    (Value.mapFieldsDoubles reread entries).lookup name =
      (entries.lookup name).map (Value.mapDoubles reread) := by
  induction entries with
  | nil => rfl
  | cons entry entries inductionHypothesis =>
      obtain ⟨key, value⟩ := entry
      by_cases same : name = key
      · subst same
        rw [Value.mapFieldsDoubles, Keyed.lookup_self, Keyed.lookup_self]
        rfl
      · rw [Value.mapFieldsDoubles, Keyed.lookup_of_ne same,
          Keyed.lookup_of_ne same, inductionHypothesis]

theorem keys_mapFieldsDoubles
    (reread : String → String) (entries : List (String × Value)) :
    (Value.mapFieldsDoubles reread entries).map Prod.fst =
      entries.map Prod.fst := by
  induction entries with
  | nil => rfl
  | cons entry entries inductionHypothesis =>
      obtain ⟨key, value⟩ := entry
      rw [Value.mapFieldsDoubles, List.map_cons, List.map_cons,
        inductionHypothesis]

/-- What shows the parts still shows them once it was read. -/
theorem Shows.normal
    {entries : List (String × Value)} {id peer : Option String}
    {fields : List (FieldKey × String)} (reread : String → String)
    (distinct : (entries.map Prod.fst).Nodup)
    (shows : Shows entries id peer fields) :
    Shows
      (collectFields (normalFields (Value.mapFieldsDoubles reread entries)))
      id peer fields := by
  have strings (name : String) (value? : Option String)
      (found : entries.lookup name = value?.map .string) :
      (collectFields
          (normalFields (Value.mapFieldsDoubles reread entries))).lookup name =
        value?.map .string := by
    have keys :
        ((normalFields (Value.mapFieldsDoubles reread entries)).map
          Prod.fst).Nodup := by
      rw [keys_normalFields, keys_mapFieldsDoubles]
      exact distinct
    rw [lookup_collectFields keys, lookup_normalFields,
      lookup_mapFieldsDoubles, found]
    cases value? <;> rfl
  exact ⟨strings "id" id shows.id, strings "peer" peer shows.peer,
    fun key => strings key.asStr _ (shows.fields key)⟩

variable {fits : Int → Bool}

theorem fieldsHaveNumbers_iff (entries : List (String × Value)) :
    Value.fieldsHaveNumbers fits isDouble entries = true ↔
      ∀ entry ∈ entries, entry.2.hasNumbers fits isDouble = true := by
  induction entries with
  | nil => simp [Value.fieldsHaveNumbers]
  | cons entry entries inductionHypothesis =>
      obtain ⟨key, value⟩ := entry
      simp [Value.fieldsHaveNumbers, inductionHypothesis]

theorem hasNumbers_structValue
    {fields : List (String × Option Value)}
    (each :
      ∀ field ∈ fields, ∀ value ∈ field.2,
        value.hasNumbers fits isDouble = true) :
    (structValue fields).hasNumbers fits isDouble = true := by
  refine (fieldsHaveNumbers_iff _).mpr ?_
  intro entry isMember
  obtain ⟨field, inFields, same⟩ := List.mem_filterMap.mp isMember
  obtain ⟨value, isValue, rfl⟩ := Option.map_eq_some_iff.mp same
  exact each field inFields value isValue

mutual

/-- A value that was read has the numbers of the value that was written. -/
theorem hasNumbers_normal (value : Value)
    (numbers : value.hasNumbers fits isDouble = true) :
    (normal value).hasNumbers fits isDouble = true := by
  match value with
  | .null | .bool _ | .int _ | .float _ | .string _ => exact numbers
  | .array items => exact itemsHaveNumbers_normalItems items numbers
  | .object fields =>
      have each := (fieldsHaveNumbers_iff _).mp
        (fieldsHaveNumbers_normalFields fields numbers)
      refine (fieldsHaveNumbers_iff _).mpr ?_
      intro entry isMember
      exact each entry (mem_collectFields isMember)

theorem itemsHaveNumbers_normalItems (items : List Value)
    (numbers : Value.itemsHaveNumbers fits isDouble items = true) :
    Value.itemsHaveNumbers fits isDouble (normalItems items) = true := by
  match items with
  | [] => rfl
  | item :: rest =>
      simp only [Value.itemsHaveNumbers, Bool.and_eq_true] at numbers
      simp only [normalItems, Value.itemsHaveNumbers, Bool.and_eq_true]
      exact ⟨hasNumbers_normal item numbers.1,
        itemsHaveNumbers_normalItems rest numbers.2⟩

theorem fieldsHaveNumbers_normalFields (fields : List (String × Value))
    (numbers : Value.fieldsHaveNumbers fits isDouble fields = true) :
    Value.fieldsHaveNumbers fits isDouble (normalFields fields) = true := by
  match fields with
  | [] => rfl
  | (_, value) :: rest =>
      simp only [Value.fieldsHaveNumbers, Bool.and_eq_true] at numbers
      simp only [normalFields, Value.fieldsHaveNumbers, Bool.and_eq_true]
      exact ⟨hasNumbers_normal value numbers.1,
        fieldsHaveNumbers_normalFields rest numbers.2⟩

end

/-- The reader of compact texts, refusing what it cannot hold. -/
def strictSerde : SerdeJson where
  fromStr := fun text =>
    match Value.ofText text with
    | some value =>
        if (normal value).hasNumbers isMachineInt (fun _ => false) then
          .ok (normal value)
        else .error "number out of range"
    | none => .error "expected value at line 1 column 1"
  misfit := fun _ _ => "invalid type"

theorem readsHeld_strictSerde :
    ReadsHeld strictSerde (fun _ => false) id where
  doubles := readsWritten_compactSerde.doubles
  reads := by
    intro value numbers _
    have held := hasNumbers_normal value numbers
    rw [Value.hasNumbers_eq_isIntegral] at numbers
    have back : Value.ofText (value.compact ++ "") = some value :=
      Value.ofText_compact numbers rfl
    rw [String.append_empty] at back
    rw [Value.mapDoubles_of_isIntegral value numbers]
    simp [strictSerde, back, held]
  held := by
    intro text value read
    unfold strictSerde at read
    simp only at read
    split at read
    · split at read
      · next fits =>
          cases read
          exact fits
      · cases read
    · cases read

variable {reread : String → String}

/-- The numbers of a JSON line are those of its frame. -/
theorem hasNumbers_jsonFields
    (reads : ReadsHeld serde isDouble reread) (now : Moment) (event : Event) :
    (structValue (event.jsonFields serde now)).hasNumbers isMachineInt
      isDouble = true := by
  apply hasNumbers_structValue
  intro field isMember value isValue
  unfold Event.jsonFields at isMember
  rcases List.mem_append.mp isMember with isEarlier | isFrame
  · rcases List.mem_append.mp isEarlier with isLeading | isDetail
    · -- Every field before the details is a string.
      have strings :
          ∀ field ∈ event.leadingFields now, ∀ value ∈ field.2,
            ∃ text, value = .string text := by
        simp [Event.leadingFields, textField, textFieldIfSome]
      obtain ⟨text, rfl⟩ := strings field isLeading value isValue
      rfl
    · obtain ⟨entry, collected, rfl⟩ := List.mem_map.mp isDetail
      obtain ⟨detail, _, rfl⟩ := List.mem_map.mp (mem_collectFields collected)
      cases isValue
      rfl
  · rw [List.mem_singleton.mp isFrame] at isValue
    obtain ⟨raw, _, rfl⟩ := Option.map_eq_some_iff.mp isValue
    unfold Event.frameValue
    cases read : serde.fromStr raw with
    | ok value => exact reads.held read
    | error _ => rfl

/-- A JSON line is one line, whatever its parts are, and shows them. -/
theorem json_line
    (reads : ReadsHeld serde isDouble reread) (now : Moment) {event : Event}
    (distinct : (event.fields.map Prod.fst).Nodup) :
    OneLine (event.renderJson serde now).toList ∧
      ∃ entries,
        event.renderJson serde now = (Value.object entries).compact ∧
          (entries.map Prod.fst).Nodup ∧
          Shows entries event.id event.peer event.fields ∧
          ((Value.object entries).depth < 128 →
            ∃ read,
              serde.fromStr (event.renderJson serde now) =
                  .ok (.object read) ∧
                Shows read event.id event.peer event.fields) := by
  have numbers := hasNumbers_jsonFields reads now event
  have printable :=
    Value.printable_write reads.doubles _ numbers
  have distinctKeys := nodup_keys_present (@nodup_jsonFields serde now event)
  have shown := @shows_jsonFields serde now event distinct
  refine ⟨?_, present (event.jsonFields serde now), rfl, distinctKeys, shown, ?_⟩
  · unfold Event.renderJson Value.compact
    rw [String.toList_ofList]
    exact printable.oneLine
  · intro shallow
    exact ⟨_, reads.reads _ numbers shallow, shown.normal reread distinctKeys⟩

end Json

section Lines

variable {serde : SerdeJson} {isDouble : String → Bool} {reread : String → String}

theorem oneLine_frame
    (reads : ReadsHeld serde isDouble reread) {value : Value}
    (numbers : value.hasNumbers isMachineInt isDouble = true) :
    OneLine (redacted value.compact).toList := by
  rw [redacted_compact reads.toReadsWritten numbers]
  have numbersToo :
      (value.mapText redacted).hasNumbers isMachineInt isDouble = true := by
    rw [Value.hasNumbers_mapText]
    exact numbers
  unfold Value.compact
  rw [String.toList_ofList]
  exact (Value.printable_write reads.doubles _ numbersToo).oneLine

/-- The frame of an event is a redacted text. -/
theorem frame_of_event
    {parts : Parts isDouble} {frame : String}
    (isFrame : frame ∈ parts.event.frame) :
    ∃ value : Value,
      value.hasNumbers isMachineInt isDouble = true ∧
        frame = redacted value.compact := by
  unfold Parts.event at isFrame
  simp only at isFrame
  split at isFrame
  · obtain ⟨value, isValue, rfl⟩ := Option.map_eq_some_iff.mp isFrame
    exact ⟨value, parts.numbers value isValue, rfl⟩
  · cases isFrame

/-- The line of an event, if it is written. -/
def Parts.line (serde : SerdeJson) (now : Moment) (parts : Parts isDouble) :
    String :=
  match parts.cfg.format with
  | .text => parts.event.renderText now
  | .json => parts.event.renderJson serde now

theorem emit_build (now : Moment) (parts : Parts isDouble) :
    parts.build.emit serde now =
      if parts.written then some (parts.line serde now) else none := by
  unfold Event.emit
  rw [willEmit_build]
  by_cases written : parts.written = true
  · rw [if_pos written, if_pos written, build_of_written written]
    have sameFormat : parts.event.cfg.format = parts.cfg.format := rfl
    unfold Parts.line
    rw [sameFormat]
    cases parts.cfg.format <;> rfl
  · rw [if_neg written, if_neg written]

theorem oneLine_text_iff
    (reads : ReadsHeld serde isDouble reread) (now : Moment)
    (parts : Parts isDouble) :
    OneLine (parts.event.renderText now).toList ↔ UnbrokenText parts := by
  have frames : ∀ frame ∈ parts.event.frame, OneLine frame.toList := by
    intro frame isFrame
    obtain ⟨value, numbers, rfl⟩ := frame_of_event isFrame
    exact oneLine_frame reads numbers
  rw [oneLine_renderText_iff]
  unfold UnbrokenText
  constructor
  · rintro ⟨ids, peers, details, _⟩
    exact ⟨ids, peers, details⟩
  · rintro ⟨ids, peers, details⟩
    exact ⟨ids, peers, details, frames⟩

/-- An event is written as one line, in JSON as one object that shows its parts,
exactly if it is not written as text with a line break in a detail or in the shown
part of an identifier. -/
theorem writesOneLine_iff
    (reads : ReadsHeld serde isDouble reread) (now : Moment)
    (parts : Parts isDouble) :
    WritesOneLine serde now parts ↔
      (parts.written = true → parts.cfg.format = .text →
        UnbrokenText parts) := by
  unfold WritesOneLine
  rw [emit_build]
  by_cases written : parts.written = true
  · rw [if_pos written]
    unfold Parts.line
    cases format : parts.cfg.format with
    | text =>
        rw [← oneLine_text_iff reads now parts]
        constructor
        · intro lines _ _
          exact (lines _ rfl).1
        · intro unbroken line isLine
          rw [← Option.some.inj isLine]
          refine ⟨unbroken written rfl, ?_⟩
          intro impossible
          cases impossible
    | json =>
        refine iff_of_true ?_ ?_
        · intro line isLine
          rw [← Option.some.inj isLine]
          have distinct : (parts.event.fields.map Prod.fst).Nodup :=
            parts.distinct
          obtain ⟨oneLine, object⟩ := json_line reads now distinct
          exact ⟨oneLine, fun _ => object⟩
        · intro _ impossible
          cases impossible
  · rw [if_neg written]
    refine iff_of_true ?_ (fun isWritten => absurd isWritten written)
    intro line impossible
    cases impossible

/-- A reply as the session loop logs it, with the text a client sent. -/
def replyParts (format : LogFormat) (text : String) :
    Parts (fun _ => false) where
  cfg := { level := .quiet, format := format }
  severity := .debug
  dir := .into
  component := .wire
  kind := .reply
  id := some "p-1"
  peer := some "cli_1"
  fields := [(.session, "alpha"), (.done, "true"), (.text, text)]
  frame := none
  distinct := by
    change [FieldKey.session, .done, .text].Nodup
    decide
  numbers := by
    intro value isFrame
    cases isFrame

/-- A text that forges the columns of a second line. -/
def forgedText : String :=
  "ok\n2026-01-01T00:00:00.000000Z DEBUG    wire             conn"

def sampleMoment : Moment where
  year := 2026
  month := 1
  day := 2
  hour := 3
  minute := 4
  second := 5
  microsecond := 6

theorem writesOneLine_iff_reply :
    WritesOneLine strictSerde sampleMoment (replyParts .json forgedText) ∧
      WritesOneLine strictSerde sampleMoment (replyParts .text "ok") := by
  refine ⟨(writesOneLine_iff readsHeld_strictSerde _ _).mpr ?_,
    (writesOneLine_iff readsHeld_strictSerde _ _).mpr ?_⟩
  · intro _ impossible
    cases impossible
  · intro _ _
    refine ⟨?_, ?_, ?_⟩
    · intro id isId
      cases isId
      decide
    · intro peer isPeer
      cases isPeer
      decide
    · decide

theorem mem_renderText_of_mem_detail
    (now : Moment) {event : Event} {detail : FieldKey × String} {char : Char}
    (isDetail : detail ∈ event.fields) (isMember : char ∈ detail.2.toList) :
    char ∈ (event.renderText now).toList := by
  have inDetail : char ∈ Event.detailText detail := by
    simp [Event.detailText, isMember]
  have inDetails : char ∈ event.fields.flatMap Event.detailText :=
    List.mem_flatMap.mpr ⟨detail, isDetail, inDetail⟩
  simp [Event.renderText, Event.detailsText, inDetails]

/-- A reply with a line break in its text makes two lines in the text format. -/
theorem reply_forges_a_line :
    ∃ line,
      (replyParts .text forgedText).build.emit strictSerde sampleMoment =
          some line ∧
        '\n' ∈ line.toList ∧
        ¬WritesOneLine strictSerde sampleMoment
          (replyParts .text forgedText) := by
  let line := (replyParts .text forgedText).event.renderText sampleMoment
  have written :
      (replyParts .text forgedText).build.emit strictSerde sampleMoment =
        some line := by
    unfold Event.emit
    rw [willEmit_build, build_of_written rfl]
    rfl
  have broken : '\n' ∈ line.toList := by
    have isDetail :
        (FieldKey.text, forgedText) ∈
          (replyParts .text forgedText).event.fields := by
      decide
    exact mem_renderText_of_mem_detail sampleMoment isDetail (by decide)
  refine ⟨line, written, broken, ?_⟩
  intro writes
  exact (writes line written).1.1 broken

end Lines

end HollerServer.Debug
