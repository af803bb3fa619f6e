import HollerServer.Debug.OneLine

/-!
# What a line gives away

A line holds a secret exactly if one of the texts does that it shows beside its frame:
the identifiers, in a text line their first twelve characters, and the details.  A frame
never does, neither as text nor as the value it is read as.
-/

namespace HollerServer.Debug

open HollerServer.Proto HollerServer.Wire JsonText Runs Pattern

section Values

instance (text : String) : Decidable (HoldsSecret text) :=
  inferInstanceAs (Decidable (secretPattern.Occurs text.toList))

/-- A constant is checked by its characters. -/
theorem not_holdsSecret_ofList
    {chars : List Char} (clean : ¬secretPattern.Occurs chars) :
    ¬HoldsSecret (String.ofList chars) := by
  unfold HoldsSecret
  rw [String.toList_ofList]
  exact clean

/-- A string holds a secret exactly if what is written for it does. -/
theorem occurs_escape_iff (chars : List Char) :
    secretPattern.Occurs (escape chars) ↔ secretPattern.Occurs chars := by
  constructor
  · intro occurs
    by_contra clean
    exact (redacted_escape (.of_clean clean)).clean occurs
  · rintro ⟨before, rest, rfl, next, after, rfl, inside⟩
    have kept :
        escape (secretPattern.mark ++ [next]) = secretPattern.mark ++ [next] :=
      escape_of_isTokenChar (mark_append_member inside)
    have split :
        before ++ (secretPattern.mark ++ next :: after) =
          before ++ ((secretPattern.mark ++ [next]) ++ after) := by
      simp
    rw [split, escape_append, escape_append, kept]
    exact ⟨escape before, _, rfl, next, escape after, by simp, inside⟩

theorem occurs_writeString_iff (chars : List Char) :
    secretPattern.Occurs (writeString chars) ↔ secretPattern.Occurs chars := by
  unfold writeString
  rw [occurs_cons_iff_of_outside rfl, occurs_append_cons_iff rfl,
    or_iff_left not_occurs_nil, occurs_escape_iff]

variable {fits : Int → Bool} {isDouble : String → Bool}

mutual

/-- The text of a value holds a secret exactly if one of its strings or keys does. -/
theorem occurs_write_iff
    (doubles : Value.AreNumbers isDouble)
    (value : Value) (numbers : value.hasNumbers fits isDouble = true) :
    secretPattern.Occurs value.write ↔
      ∃ text ∈ value.texts, HoldsSecret text := by
  match value with
  | .null => simpa [Value.texts] using not_occurs_of_notMem (by decide)
  | .bool true => simpa [Value.texts] using not_occurs_of_notMem (by decide)
  | .bool false => simpa [Value.texts] using not_occurs_of_notMem (by decide)
  | .int value =>
      simpa [Value.texts, Value.write] using
        not_occurs_of_notMem (notMem_writeInt value)
  | .float literal =>
      simpa [Value.texts, Value.write] using
        not_occurs_of_notMem (notMem_number (doubles literal numbers))
  | .string value =>
      simpa [Value.texts, Value.write, HoldsSecret] using
        occurs_writeString_iff value.toList
  | .array [] =>
      simpa [Value.texts, Value.itemsTexts] using
        not_occurs_of_notMem (by decide)
  | .array (item :: items) =>
      simp only [Value.hasNumbers, Value.itemsHaveNumbers,
        Bool.and_eq_true] at numbers
      have first := occurs_write_iff doubles item numbers.1
      have others := occurs_writeItems_iff doubles items numbers.2
      simp only [Value.write]
      rw [occurs_cons_iff_of_outside rfl,
        occurs_append_iff_of_ends (ends_writeItems items), first, others]
      simp [Value.texts, Value.itemsTexts, or_and_right, exists_or]
  | .object [] =>
      simpa [Value.texts, Value.fieldsTexts] using
        not_occurs_of_notMem (by decide)
  | .object ((key, value) :: fields) =>
      simp only [Value.hasNumbers, Value.fieldsHaveNumbers,
        Bool.and_eq_true] at numbers
      have first := occurs_write_iff doubles value numbers.1
      have others := occurs_writeFields_iff doubles fields numbers.2
      simp only [Value.write]
      rw [occurs_cons_iff_of_outside rfl, occurs_append_cons_iff rfl,
        occurs_writeString_iff,
        occurs_append_iff_of_ends (ends_writeFields fields), first, others]
      simp [Value.texts, Value.fieldsTexts, or_and_right, exists_or, HoldsSecret]

theorem occurs_writeItems_iff
    (doubles : Value.AreNumbers isDouble)
    (items : List Value)
    (numbers : Value.itemsHaveNumbers fits isDouble items = true) :
    secretPattern.Occurs (Value.writeItems items) ↔
      ∃ text ∈ Value.itemsTexts items, HoldsSecret text := by
  match items with
  | [] => simpa [Value.itemsTexts] using not_occurs_of_notMem (by decide)
  | item :: items =>
      simp only [Value.itemsHaveNumbers, Bool.and_eq_true] at numbers
      have first := occurs_write_iff doubles item numbers.1
      have others := occurs_writeItems_iff doubles items numbers.2
      simp only [Value.writeItems]
      rw [occurs_cons_iff_of_outside rfl,
        occurs_append_iff_of_ends (ends_writeItems items), first, others]
      simp [Value.itemsTexts, or_and_right, exists_or]

theorem occurs_writeFields_iff
    (doubles : Value.AreNumbers isDouble)
    (fields : List (String × Value))
    (numbers : Value.fieldsHaveNumbers fits isDouble fields = true) :
    secretPattern.Occurs (Value.writeFields fields) ↔
      ∃ text ∈ Value.fieldsTexts fields, HoldsSecret text := by
  match fields with
  | [] => simpa [Value.fieldsTexts] using not_occurs_of_notMem (by decide)
  | (key, value) :: fields =>
      simp only [Value.fieldsHaveNumbers, Bool.and_eq_true] at numbers
      have first := occurs_write_iff doubles value numbers.1
      have others := occurs_writeFields_iff doubles fields numbers.2
      simp only [Value.writeFields]
      rw [occurs_cons_iff_of_outside rfl, occurs_append_cons_iff rfl,
        occurs_writeString_iff,
        occurs_append_iff_of_ends (ends_writeFields fields), first, others]
      simp [Value.fieldsTexts, or_and_right, exists_or, HoldsSecret]

end

theorem holdsSecret_compact_iff
    (doubles : Value.AreNumbers isDouble) {value : Value}
    (numbers : value.hasNumbers fits isDouble = true) :
    HoldsSecret value.compact ↔ ∃ text ∈ value.texts, HoldsSecret text := by
  unfold HoldsSecret Value.compact
  rw [String.toList_ofList]
  exact occurs_write_iff doubles value numbers

end Values

section Text

/-- The list starts outside a token, or is empty. -/
def EndsToken (chars : List Char) : Prop :=
  ∀ char ∈ chars.head?, isTokenChar char = false

theorem EndsToken.append
    {left right : List Char} (first : EndsToken left)
    (second : EndsToken right) :
    EndsToken (left ++ right) := by
  cases left with
  | nil => exact second
  | cons char left => exact first

theorem EndsToken.occurs_append_iff
    {left right : List Char} (ends : EndsToken right) :
    secretPattern.Occurs (left ++ right) ↔
      secretPattern.Occurs left ∨ secretPattern.Occurs right :=
  occurs_append_iff_of_ends ends

theorem endsToken_labelled
    {label : String} (starts : label.toList.head? = some ' ')
    (shown : String → List Char) (value? : Option String) :
    EndsToken (Event.labelled label shown value?) := by
  cases value? with
  | none =>
      intro char impossible
      cases impossible
  | some value =>
      intro char isHead
      unfold Event.labelled at isHead
      rw [List.head?_append, starts] at isHead
      cases isHead
      rfl

theorem endsToken_detailTexts (details : List (FieldKey × String)) :
    EndsToken (details.flatMap Event.detailText) := by
  cases details with
  | nil =>
      intro char impossible
      cases impossible
  | cons detail details =>
      intro char isHead
      cases isHead
      rfl

theorem notMem_emissionTs (now : Moment) : 'h' ∉ (emissionTs now).toList := by
  intro isMember
  cases timeChars_emissionTs now _ isMember

/-- The columns hold no secret. -/
theorem not_occurs_columnsText (now : Moment) (event : Event) :
    ¬secretPattern.Occurs (event.columnsText now) := by
  have absent (width : Nat) {text : String} (none : 'h' ∉ text.toList) :
      'h' ∉ padded width text := by
    unfold padded
    rw [List.mem_append, not_or]
    refine ⟨none, ?_⟩
    intro isMember
    cases List.eq_of_mem_replicate isMember
  have severity : 'h' ∉ event.severity.asText.toList := by
    cases event.severity <;> decide
  have dir : 'h' ∉ event.dir.asText.toList := by
    cases event.dir <;> decide
  have component : 'h' ∉ event.component.asStr.toList := by
    cases event.component <;> decide
  have kind : 'h' ∉ event.kind.asStr.toList := by
    cases event.kind <;> decide
  apply not_occurs_of_notMem
  unfold Event.columnsText
  simp only [List.mem_append, List.mem_cons, not_or]
  exact ⟨⟨⟨⟨notMem_emissionTs now, by decide, severity⟩, by decide, dir⟩,
    by decide, absent 16 component⟩, by decide, absent 10 kind⟩

theorem occurs_labelled_iff
    {label : String} (constant : 'h' ∉ label.toList)
    (shown : String → List Char) (value? : Option String) :
    secretPattern.Occurs (Event.labelled label shown value?) ↔
      ∃ value ∈ value?, secretPattern.Occurs (shown value) := by
  cases value? with
  | none => simp [Event.labelled, not_occurs_nil]
  | some value =>
      unfold Event.labelled
      rw [occurs_append_iff_of_notMem constant]
      simp

theorem occurs_detailText_iff (detail : FieldKey × String) :
    secretPattern.Occurs (Event.detailText detail) ↔
      HoldsSecret detail.2 := by
  have key : ¬secretPattern.Occurs (' ' :: detail.1.asStr.toList) := by
    cases detail.1 <;> decide
  unfold Event.detailText
  rw [occurs_append_cons_iff rfl, or_iff_right key]
  rfl

theorem occurs_detailTexts_iff (details : List (FieldKey × String)) :
    secretPattern.Occurs (details.flatMap Event.detailText) ↔
      ∃ detail ∈ details, HoldsSecret detail.2 := by
  induction details with
  | nil => simp [not_occurs_nil]
  | cons detail details inductionHypothesis =>
      rw [List.flatMap_cons,
        (endsToken_detailTexts details).occurs_append_iff,
        occurs_detailText_iff, inductionHypothesis]
      simp

/-- A text line holds a secret exactly if a part behind its columns does. -/
theorem holdsSecret_renderText_iff (now : Moment) (event : Event) :
    HoldsSecret (event.renderText now) ↔
      (∃ id ∈ event.id, secretPattern.Occurs (short id)) ∨
        (∃ peer ∈ event.peer, secretPattern.Occurs (short peer)) ∨
        (∃ detail ∈ event.fields, HoldsSecret detail.2) ∨
        ∃ frame ∈ event.frame, HoldsSecret frame := by
  have idEnds : EndsToken (Event.labelled " id=" short event.id) :=
    endsToken_labelled rfl short event.id
  have peerEnds : EndsToken (Event.labelled " peer=" short event.peer) :=
    endsToken_labelled rfl short event.peer
  have detailEnds := endsToken_detailTexts event.fields
  have frameEnds :
      EndsToken (Event.labelled " " String.toList event.frame) :=
    endsToken_labelled rfl String.toList event.frame
  unfold HoldsSecret Event.renderText Event.detailsText
  rw [String.toList_ofList,
    (((idEnds.append peerEnds).append detailEnds).append
      frameEnds).occurs_append_iff,
    or_iff_right (not_occurs_columnsText now event),
    frameEnds.occurs_append_iff, detailEnds.occurs_append_iff,
    peerEnds.occurs_append_iff, occurs_labelled_iff (by decide),
    occurs_labelled_iff (by decide), occurs_labelled_iff (by decide),
    occurs_detailTexts_iff, or_assoc, or_assoc]
  rfl

end Text

section Texts

theorem mem_fieldsTexts {entries : List (String × Value)} {text : String} :
    text ∈ Value.fieldsTexts entries ↔
      ∃ entry ∈ entries, text = entry.1 ∨ text ∈ entry.2.texts := by
  induction entries with
  | nil => simp [Value.fieldsTexts]
  | cons entry entries inductionHypothesis =>
      obtain ⟨key, value⟩ := entry
      simp [Value.fieldsTexts, inductionHypothesis, or_assoc]

mutual

theorem texts_mapDoubles (change : String → String) (value : Value) :
    (value.mapDoubles change).texts = value.texts := by
  match value with
  | .null | .bool _ | .int _ | .float _ | .string _ => rfl
  | .array items => exact itemsTexts_mapItemsDoubles change items
  | .object fields => exact fieldsTexts_mapFieldsDoubles change fields

theorem itemsTexts_mapItemsDoubles
    (change : String → String) (items : List Value) :
    Value.itemsTexts (Value.mapItemsDoubles change items) =
      Value.itemsTexts items := by
  match items with
  | [] => rfl
  | item :: rest =>
      simp only [Value.mapItemsDoubles, Value.itemsTexts,
        texts_mapDoubles change item, itemsTexts_mapItemsDoubles change rest]

theorem fieldsTexts_mapFieldsDoubles
    (change : String → String) (fields : List (String × Value)) :
    Value.fieldsTexts (Value.mapFieldsDoubles change fields) =
      Value.fieldsTexts fields := by
  match fields with
  | [] => rfl
  | (_, value) :: rest =>
      simp only [Value.mapFieldsDoubles, Value.fieldsTexts,
        texts_mapDoubles change value,
        fieldsTexts_mapFieldsDoubles change rest]

end

mutual

/-- A value that was read has no other texts than the value that was written. -/
theorem texts_normal_subset (value : Value) :
    (normal value).texts ⊆ value.texts := by
  match value with
  | .null | .bool _ | .int _ | .float _ | .string _ =>
      exact List.Subset.refl _
  | .array items => exact itemsTexts_normalItems_subset items
  | .object fields =>
      intro text isText
      obtain ⟨entry, collected, holds⟩ := mem_fieldsTexts.mp isText
      apply fieldsTexts_normalFields_subset fields
      exact mem_fieldsTexts.mpr ⟨entry, mem_collectFields collected, holds⟩

theorem itemsTexts_normalItems_subset (items : List Value) :
    Value.itemsTexts (normalItems items) ⊆ Value.itemsTexts items := by
  match items with
  | [] => exact List.Subset.refl _
  | item :: rest =>
      simp only [normalItems, Value.itemsTexts]
      apply List.append_subset_of_subset_of_subset
      · exact List.subset_append_of_subset_left _ (texts_normal_subset item)
      · exact List.subset_append_of_subset_right _
          (itemsTexts_normalItems_subset rest)

theorem fieldsTexts_normalFields_subset (fields : List (String × Value)) :
    Value.fieldsTexts (normalFields fields) ⊆ Value.fieldsTexts fields := by
  match fields with
  | [] => exact List.Subset.refl _
  | (key, value) :: rest =>
      simp only [normalFields, Value.fieldsTexts]
      apply List.cons_subset_cons
      apply List.append_subset_of_subset_of_subset
      · exact List.subset_append_of_subset_left _ (texts_normal_subset value)
      · exact List.subset_append_of_subset_right _
          (fieldsTexts_normalFields_subset rest)

end

end Texts

section Json

/-- serde_json, which does not read what nests as deep as its limit. -/
structure ReadsLimited
    (serde : SerdeJson) (isDouble : String → Bool) (reread : String → String) :
    Prop extends ReadsHeld serde isDouble reread where
  refuses :
    ∀ value : Value, value.hasNumbers isMachineInt isDouble = true →
      128 ≤ value.depth →
      ∃ message, serde.fromStr value.compact = .error message

/-- The reader of compact texts, with the limit. -/
def limitedSerde : SerdeJson where
  fromStr := fun text =>
    match Value.ofText text with
    | some value =>
        if value.depth < 128 then strictSerde.fromStr text
        else .error "recursion limit exceeded at line 1 column 128"
    | none => .error "expected value at line 1 column 1"
  misfit := strictSerde.misfit

theorem readsLimited_limitedSerde :
    ReadsLimited limitedSerde (fun _ => false) id where
  doubles := readsHeld_strictSerde.doubles
  reads := by
    intro value numbers shallow
    have read := readsHeld_strictSerde.reads value numbers shallow
    rw [Value.hasNumbers_eq_isIntegral] at numbers
    have back : Value.ofText (value.compact ++ "") = some value :=
      Value.ofText_compact numbers rfl
    rw [String.append_empty] at back
    simp [limitedSerde, back, shallow, read]
  held := by
    intro text value read
    unfold limitedSerde at read
    simp only at read
    split at read
    · split at read
      · exact readsHeld_strictSerde.held read
      · cases read
    · cases read
  refuses := by
    intro value numbers deep
    rw [Value.hasNumbers_eq_isIntegral] at numbers
    have back : Value.ofText (value.compact ++ "") = some value :=
      Value.ofText_compact numbers rfl
    rw [String.append_empty] at back
    refine ⟨"recursion limit exceeded at line 1 column 128", ?_⟩
    simp [limitedSerde, back, Nat.not_lt.mpr deep]

variable {serde : SerdeJson} {isDouble : String → Bool} {reread : String → String}

/-- No text of a frame holds a secret, whether it is read again or not. -/
theorem not_holdsSecret_frameValue
    (reads : ReadsLimited serde isDouble reread) {value : Value}
    (numbers : value.hasNumbers isMachineInt isDouble = true) :
    ∀ text ∈ (Event.frameValue serde (redacted value.compact)).texts,
      ¬HoldsSecret text := by
  have numbersToo :
      (value.mapText redacted).hasNumbers isMachineInt isDouble = true := by
    rw [Value.hasNumbers_mapText]
    exact numbers
  have same :
      redacted value.compact = (value.mapText redacted).compact :=
    redacted_compact reads.toReadsWritten numbers
  intro text isText
  unfold Event.frameValue at isText
  rw [same] at isText
  by_cases shallow : (value.mapText redacted).depth < 128
  · rw [reads.reads _ numbersToo shallow] at isText
    have kept := texts_normal_subset _ isText
    rw [texts_mapDoubles, Value.texts_mapText] at kept
    obtain ⟨original, _, rfl⟩ := List.mem_map.mp kept
    exact not_holdsSecret_redacted original
  · obtain ⟨message, refused⟩ :=
      reads.refuses _ numbersToo (Nat.le_of_not_lt shallow)
    rw [refused, ← same] at isText
    rw [List.mem_singleton.mp isText]
    exact not_holdsSecret_redacted value.compact

/-- A field holds a secret in its key or in a text of its value. -/
def FieldHolds (entry : String × Value) : Prop :=
  HoldsSecret entry.1 ∨ ∃ text ∈ entry.2.texts, HoldsSecret text

theorem holdsSecret_structValue_iff
    (doubles : Value.AreNumbers isDouble)
    {fields : List (String × Option Value)}
    (numbers :
      (structValue fields).hasNumbers isMachineInt isDouble = true) :
    HoldsSecret (structValue fields).compact ↔
      ∃ field ∈ fields, ∃ value ∈ field.2, FieldHolds (field.1, value) := by
  rw [holdsSecret_compact_iff doubles numbers]
  constructor
  · rintro ⟨text, isText, holds⟩
    obtain ⟨entry, isEntry, inEntry⟩ := mem_fieldsTexts.mp isText
    obtain ⟨field, isField, same⟩ := List.mem_filterMap.mp isEntry
    obtain ⟨value, isValue, rfl⟩ := Option.map_eq_some_iff.mp same
    refine ⟨field, isField, value, isValue, ?_⟩
    rcases inEntry with rfl | inValue
    · exact .inl holds
    · exact .inr ⟨text, inValue, holds⟩
  · rintro ⟨field, isField, value, isValue, holds⟩
    have isEntry : (field.1, value) ∈ present fields :=
      List.mem_filterMap.mpr
        ⟨field, isField, Option.map_eq_some_iff.mpr ⟨value, isValue, rfl⟩⟩
    rcases holds with inKey | ⟨text, inValue, holds⟩
    · exact ⟨field.1, mem_fieldsTexts.mpr ⟨_, isEntry, .inl rfl⟩, inKey⟩
    · exact ⟨text, mem_fieldsTexts.mpr ⟨_, isEntry, .inr inValue⟩, holds⟩

theorem textField_holds_iff (key text : String) :
    (∃ value ∈ textField text, FieldHolds (key, value)) ↔
      HoldsSecret key ∨ HoldsSecret text := by
  unfold FieldHolds textField
  simp [Value.texts]

theorem textFieldIfSome_holds_iff
    {key : String} (constant : ¬HoldsSecret key) (text? : Option String) :
    (∃ value ∈ textFieldIfSome text?, FieldHolds (key, value)) ↔
      ∃ text ∈ text?, HoldsSecret text := by
  unfold FieldHolds textFieldIfSome
  cases text? <;> simp [Value.texts, constant]

/-- Before the details only the identifiers of a line can hold a secret. -/
theorem leadingFields_hold_iff (now : Moment) (event : Event) :
    (∃ field ∈ event.leadingFields now, ∃ value ∈ field.2,
        FieldHolds (field.1, value)) ↔
      (∃ id ∈ event.id, HoldsSecret id) ∨
        ∃ peer ∈ event.peer, HoldsSecret peer := by
  have time : ¬HoldsSecret (emissionTs now) :=
    not_occurs_of_notMem (notMem_emissionTs now)
  have severity : ¬HoldsSecret event.severity.asStr := by
    cases event.severity
    all_goals exact not_holdsSecret_ofList (by decide)
  have level : ¬HoldsSecret event.cfg.level.asStr := by
    cases event.cfg.level
    all_goals exact not_holdsSecret_ofList (by decide)
  have component : ¬HoldsSecret event.component.asStr := by
    cases event.component
    all_goals exact not_holdsSecret_ofList (by decide)
  have dir : ∀ text ∈ event.dir.asJson, ¬HoldsSecret text := by
    cases event.dir <;> decide
  have kind : ¬HoldsSecret event.kind.asStr := by
    cases event.kind
    all_goals exact not_holdsSecret_ofList (by decide)
  have noDir : ¬∃ text ∈ event.dir.asJson, HoldsSecret text := by
    rintro ⟨text, isText, holds⟩
    exact dir text isText holds
  have keys : ∀ key ∈ leadingKeys, ¬HoldsSecret key := by decide
  simp only [leadingKeys, List.forall_mem_cons] at keys
  obtain ⟨ts, levelKey, verbosity, componentKey, dirKey, typeKey, idKey,
    peerKey, _⟩ := keys
  unfold Event.leadingFields
  simp only [List.exists_mem_cons_iff, textField_holds_iff,
    textFieldIfSome_holds_iff dirKey, textFieldIfSome_holds_iff idKey,
    textFieldIfSome_holds_iff peerKey]
  simp only [ts, levelKey, verbosity, componentKey, typeKey, time, severity,
    level, component, noDir, kind, List.not_mem_nil, false_and, exists_false,
    or_false, false_or]

theorem detailFields_hold_iff
    {details : List (FieldKey × String)}
    (distinct : (details.map Prod.fst).Nodup) :
    (∃ entry ∈ collectFields (Event.detailEntries details),
        FieldHolds entry) ↔
      ∃ detail ∈ details, HoldsSecret detail.2 := by
  have holds_iff (detail : FieldKey × String) :
      FieldHolds (detail.1.asStr, .string detail.2) ↔
        HoldsSecret detail.2 := by
    have key : ¬HoldsSecret detail.1.asStr := by
      cases detail.1
      all_goals exact not_holdsSecret_ofList (by decide)
    unfold FieldHolds
    simp [Value.texts, key]
  constructor
  · rintro ⟨entry, collected, holds⟩
    obtain ⟨detail, isDetail, rfl⟩ :=
      List.mem_map.mp (mem_collectFields collected)
    exact ⟨detail, isDetail, (holds_iff detail).mp holds⟩
  · rintro ⟨detail, isDetail, holds⟩
    have distinctKeys :
        ((Event.detailEntries details).map Prod.fst).Nodup := by
      rw [keys_detailEntries]
      exact distinct.map asStr_injective
    have collected :
        (collectFields (Event.detailEntries details)).lookup
            detail.1.asStr =
          some (.string detail.2) := by
      rw [lookup_collectFields distinctKeys, lookup_detailEntries,
        Keyed.lookup_of_mem distinct isDetail]
      rfl
    exact ⟨_, Keyed.mem_of_lookup collected, (holds_iff detail).mpr holds⟩

/-- A JSON line holds a secret exactly if an identifier or a detail does. -/
theorem holdsSecret_renderJson_iff
    (reads : ReadsLimited serde isDouble reread) (now : Moment) {event : Event}
    (distinct : (event.fields.map Prod.fst).Nodup)
    (cleanFrame :
      ∀ raw ∈ event.frame, ∀ text ∈ (Event.frameValue serde raw).texts,
        ¬HoldsSecret text) :
    HoldsSecret (event.renderJson serde now) ↔
      (∃ id ∈ event.id, HoldsSecret id) ∨
        (∃ peer ∈ event.peer, HoldsSecret peer) ∨
        ∃ detail ∈ event.fields, HoldsSecret detail.2 := by
  have numbers := hasNumbers_jsonFields reads.toReadsHeld now event
  have frame :
      ¬∃ value ∈ event.frame.map (Event.frameValue serde),
        FieldHolds ("frame", value) := by
    have key : ¬HoldsSecret "frame" := by decide
    rintro ⟨value, isValue, inKey | ⟨text, isText, holds⟩⟩
    · exact key inKey
    · obtain ⟨raw, isRaw, rfl⟩ := Option.map_eq_some_iff.mp isValue
      exact cleanFrame raw isRaw text isText holds
  unfold Event.renderJson
  rw [holdsSecret_structValue_iff reads.doubles numbers]
  unfold Event.jsonFields
  simp only [List.mem_append, or_and_right, exists_or, List.mem_singleton,
    exists_eq_left, frame, or_false]
  rw [leadingFields_hold_iff, or_assoc, ← detailFields_hold_iff distinct]
  simp

end Json

section Lines

variable {serde : SerdeJson} {isDouble : String → Bool} {reread : String → String}

/-- What a line shows of an identifier. -/
def shown : LogFormat → String → String
  | .text, value => String.ofList (short value)
  | .json, value => value

/-- The texts a line shows beside its frame. -/
def Parts.shownTexts (parts : Parts isDouble) : List String :=
  (parts.id.toList ++ parts.peer.toList).map (shown parts.cfg.format) ++
    parts.fields.map Prod.snd

/-- No text that is shown beside the frame holds a secret. -/
def Parts.Withholds (parts : Parts isDouble) : Prop :=
  ∀ text ∈ parts.shownTexts, ¬HoldsSecret text

/-- The line of an event holds no secret. -/
def KeepsSecrets (serde : SerdeJson) (parts : Parts isDouble) : Prop :=
  ∀ now line, parts.build.emit serde now = some line → ¬HoldsSecret line

theorem withholds_iff (parts : Parts isDouble) :
    parts.Withholds ↔
      (∀ id ∈ parts.id, ¬HoldsSecret (shown parts.cfg.format id)) ∧
        (∀ peer ∈ parts.peer, ¬HoldsSecret (shown parts.cfg.format peer)) ∧
        ∀ detail ∈ parts.fields, ¬HoldsSecret detail.2 := by
  unfold Parts.Withholds Parts.shownTexts
  simp only [List.forall_mem_append, List.forall_mem_map, Option.mem_toList,
    Option.mem_def, and_assoc]

theorem withholds_iff_text
    {parts : Parts isDouble} (format : parts.cfg.format = .text)
    (now : Moment) :
    ¬HoldsSecret (parts.event.renderText now) ↔ parts.Withholds := by
  have noFrame : ¬∃ frame ∈ parts.event.frame, HoldsSecret frame := by
    rintro ⟨frame, isFrame, holds⟩
    obtain ⟨value, _, rfl⟩ := frame_of_event isFrame
    exact not_holdsSecret_redacted _ holds
  have shownText (value : String) :
      HoldsSecret (shown .text value) ↔ secretPattern.Occurs (short value) := by
    unfold HoldsSecret shown
    rw [String.toList_ofList]
  rw [holdsSecret_renderText_iff, withholds_iff, format]
  simp only [noFrame, or_false, not_or, not_exists, not_and, shownText]
  rfl

theorem withholds_iff_json
    (reads : ReadsLimited serde isDouble reread)
    {parts : Parts isDouble} (format : parts.cfg.format = .json)
    (now : Moment) :
    ¬HoldsSecret (parts.event.renderJson serde now) ↔ parts.Withholds := by
  have distinct : (parts.event.fields.map Prod.fst).Nodup := parts.distinct
  have cleanFrame :
      ∀ raw ∈ parts.event.frame,
        ∀ text ∈ (Event.frameValue serde raw).texts, ¬HoldsSecret text := by
    intro raw isRaw
    obtain ⟨value, numbers, rfl⟩ := frame_of_event isRaw
    exact not_holdsSecret_frameValue reads numbers
  rw [holdsSecret_renderJson_iff reads now distinct cleanFrame, withholds_iff,
    format]
  simp only [not_or, not_exists, not_and, shown]
  rfl

theorem not_holdsSecret_line_iff
    (reads : ReadsLimited serde isDouble reread) (parts : Parts isDouble)
    (now : Moment) :
    ¬HoldsSecret (parts.line serde now) ↔ parts.Withholds := by
  unfold Parts.line
  cases format : parts.cfg.format with
  | text => exact withholds_iff_text format now
  | json => exact withholds_iff_json reads format now

/-- A line holds no secret exactly if it is not written, or no identifier as far as
it is shown and no detail of it does. -/
theorem keepsSecrets_iff
    (reads : ReadsLimited serde isDouble reread) (parts : Parts isDouble) :
    KeepsSecrets serde parts ↔ (parts.written = true → parts.Withholds) := by
  unfold KeepsSecrets
  simp only [emit_build]
  constructor
  · intro keeps written
    apply (not_holdsSecret_line_iff reads parts sampleMoment).mp
    exact keeps sampleMoment _ (by rw [if_pos written])
  · intro withholds now line isLine
    split at isLine
    · next written =>
        cases isLine
        exact (not_holdsSecret_line_iff reads parts now).mpr (withholds written)
    · cases isLine

end Lines

end HollerServer.Debug
