import HollerServer.Token.Sample
import HollerServer.Token.Ttl

/-!
# Tokens with the lifetime asked for

`mint` with a duration that `parse_ttl` returned.  The expiry is the time of the call
plus the duration, and `OffsetDateTime` ends with the year 9999.
-/

namespace HollerServer.Token

open Text

variable {crates : Crates} {pepper : List UInt8} {now : Instant}
  {idDraw : Draw 16} {secretDraw : Draw 32} {label : Option String}
  {ttl : Int} {file : File}

section Durations

theorem durationOf_nonneg
    {unitSeconds count duration : Int}
    (unitPositive : 0 ≤ unitSeconds) (positive : 0 ≤ count)
    (returned : durationOf unitSeconds count = .ok duration) :
    0 ≤ duration := by
  unfold durationOf at returned
  split at returned
  · cases returned
    have seconds : 0 ≤ count * unitSeconds :=
      Int.mul_nonneg positive unitPositive
    exact Int.mul_nonneg seconds (by decide)
  · cases returned

/-- An accepted lifetime is not negative. -/
theorem parseTtl_nonneg {text : String}
    (accepted : parseTtl text = .ok ttl) : 0 ≤ ttl := by
  rcases List.eq_nil_or_concat (trim text).toList with
    trimmed | ⟨numPart, unit, trimmed⟩
  · rw [parseTtl_of_blank trimmed] at accepted
    cases accepted
  · rw [List.concat_eq_append] at trimmed
    by_cases oneByte : unit.utf8Size = 1
    · by_cases counted : ∃ count seconds, CountsUnits text count seconds
      · obtain ⟨count, seconds, counts⟩ := counted
        obtain ⟨_, positive, known⟩ := (countsUnits_iff trimmed _ _).mp counts
        rw [parseTtl_of_countsUnits trimmed oneByte counts] at accepted
        exact
          durationOf_nonneg (secondsOfUnit_nonneg known) positive accepted
      · rw [parseTtl_of_not_countsUnits trimmed oneByte counted] at accepted
        cases accepted
    · rw [parseTtl_of_wide_end trimmed oneByte] at accepted
      cases accepted

end Durations

section Records

/-- Without random bytes no record is made. -/
theorem mintRecord_of_no_draw (missing : idDraw = none ∨ secretDraw = none) :
    mintRecord crates pepper now idDraw secretDraw label ttl =
      .err .rng := by
  cases idDraw with
  | none => rfl
  | some idBytes =>
      cases secretDraw with
      | none => rfl
      | some secretBytes =>
          obtain impossible | impossible := missing
          · cases impossible
          · cases impossible

/-- An expiry that no `OffsetDateTime` can hold. -/
theorem mintRecord_of_overflow
    (overflows : maxDateTime < now.nanos + ttl)
    (idBytes : Vector UInt8 16) (secretBytes : Vector UInt8 32) :
    mintRecord crates pepper now (some idBytes) (some secretBytes) label
        ttl = .panicked := by
  have outside :
      ¬(minDateTime ≤ now.nanos + ttl ∧
        now.nanos + ttl ≤ maxDateTime) := by
    rintro ⟨_, within⟩
    omega
  have added : addDuration now.nanos ttl = .panicked := if_neg outside
  unfold mintRecord randomHex
  simp only [Result.ok_bind, added]
  rfl

/-- The end of a lifetime, when there is such a time. -/
def expiry
    (now : Instant) {ttl : Int} (positive : 0 ≤ ttl)
    (within : now.nanos + ttl ≤ maxDateTime) : Instant where
  nanos := now.nanos + ttl
  earliest := by
    have earliest := now.earliest
    omega
  latest := within

theorem exists_mintRecord (lawful : crates.Lawful)
    (positive : 0 ≤ ttl) (within : now.nanos + ttl ≤ maxDateTime)
    (idBytes : Vector UInt8 16) (secretBytes : Vector UInt8 32) :
    ∃ record result,
      mintRecord crates pepper now (some idBytes) (some secretBytes) label
        ttl = .ok (record, result) := by
  have added : addDuration now.nanos ttl = .ok (now.nanos + ttl) := by
    have range := (expiry now positive within).earliest
    refine if_pos ⟨Int.le_trans (by decide) range, within⟩
  obtain ⟨expires, expiresWritten⟩ :=
    lawful.format_clock (expiry now positive within)
  obtain ⟨created, createdWritten⟩ := lawful.format_clock now
  have expiresFormatted :
      format crates (now.nanos + ttl) = .ok expires :=
    format_eq_ok.mpr expiresWritten
  have createdFormatted : format crates now.nanos = .ok created :=
    format_eq_ok.mpr createdWritten
  unfold mintRecord randomHex
  simp only [Result.ok_bind, added, expiresFormatted, createdFormatted]
  exact ⟨_, _, rfl⟩

/-- An unused record is shown as stale from its expiry on. -/
theorem displayState_stale_iff
    {record : TokenRecord} {expires : Int} (unused : record.state = .unused)
    (parsed : crates.parseRfc3339 record.expires = some expires) (time : Int) :
    record.displayState crates time = .stale ↔ expires ≤ time := by
  unfold TokenRecord.displayState
  rw [unused]
  simp only [parsed]
  by_cases expired : expires ≤ time
  · rw [if_pos expired]
    exact iff_of_true rfl expired
  · rw [if_neg expired]
    refine iff_of_false ?_ expired
    intro impossible
    cases impossible

end Records

section Total

/-- What a `mint` is to come to: it does not panic; with an error it leaves the store
as it was; and otherwise it adds one unused record, whose expiry reads back as the
time of the call plus the lifetime and is where it begins to be shown as stale. -/
structure MintsExactly
    (crates : Crates) (pepper : List UInt8) (now : Instant)
    (idDraw : Draw 16) (secretDraw : Draw 32) (label : Option String)
    (ttl : Int) (file : File) : Prop where
  returns :
    ((Op.mint now idDraw secretDraw label ttl).exec crates pepper
      file).1 ≠ .panicked
  refuses :
    ∀ error,
      ((Op.mint now idDraw secretDraw label ttl).exec crates pepper
          file).1 = .err error →
        ((Op.mint now idDraw secretDraw label ttl).exec crates pepper
          file).2 = file
  adds :
    ∀ answer,
      ((Op.mint now idDraw secretDraw label ttl).exec crates pepper
          file).1 = .ok answer →
        ∃ records record,
          load crates file = .ok records ∧
            ((Op.mint now idDraw secretDraw label ttl).exec crates pepper
              file).2 = save crates (records ++ [record]) ∧
            record.state = .unused ∧
            crates.parseRfc3339 record.expires = some (now.nanos + ttl) ∧
            ∀ time,
              record.displayState crates time = .stale ↔
                now.nanos + ttl ≤ time

theorem mintsExactly_of_err {error : TokenError}
    (refused :
      mintRecord crates pepper now idDraw secretDraw label ttl =
        .err error) :
    MintsExactly crates pepper now idDraw secretDraw label ttl file := by
  have executed :
      (Op.mint now idDraw secretDraw label ttl).exec crates pepper file =
        (.err error, file) := by
    unfold Op.exec
    simp only [refused]
  constructor
  · rw [executed]
    intro impossible
    cases impossible
  · intro other _
    rw [executed]
  · intro answer impossible
    rw [executed] at impossible
    cases impossible

theorem mintsExactly_of_ok (lawful : crates.Lawful)
    {record : TokenRecord} {result : MintResult}
    (minted :
      mintRecord crates pepper now idDraw secretDraw label ttl =
        .ok (record, result)) :
    MintsExactly crates pepper now idDraw secretDraw label ttl file := by
  have executed :
      (Op.mint now idDraw secretDraw label ttl).exec crates pepper file =
        (Mutation.mint record result).exec crates pepper file := by
    unfold Op.exec
    simp only [minted]
  obtain ⟨_, _, _, unused, _, _, _, _, formatted⟩ :=
    mintRecord_eq_ok minted
  have parsed := lawful.parse_format formatted
  constructor
  · rw [executed]
    intro panicked
    obtain ⟨_, _, impossible⟩ := Mutation.exec_fst_eq_panicked.mp panicked
    cases impossible
  · intro error failed
    rw [executed] at failed ⊢
    refine Mutation.file_of_not_ok ?_
    rw [failed]
    rfl
  · intro answer succeeded
    rw [executed] at succeeded ⊢
    obtain ⟨records, _, loaded, modified, saved⟩ :=
      Mutation.exec_eq_ok (Prod.ext succeeded rfl)
    cases modified
    exact
      ⟨records, record, loaded, saved, unused, parsed,
        displayState_stale_iff unused parsed⟩

theorem exec_of_overflow
    (crates : Crates) (pepper : List UInt8) (label : Option String)
    (file : File) (overflows : maxDateTime < now.nanos + ttl)
    (idBytes : Vector UInt8 16) (secretBytes : Vector UInt8 32) :
    ((Op.mint now (some idBytes) (some secretBytes) label ttl).exec crates
      pepper file).1 = .panicked := by
  unfold Op.exec
  simp only [mintRecord_of_overflow overflows]

/-- A `mint` with an accepted lifetime comes to what it is to come to exactly if the
random source fails before the addition or the expiry is a time. -/
theorem mintsExactly_iff (lawful : crates.Lawful)
    {text : String} (accepted : parseTtl text = .ok ttl) :
    MintsExactly crates pepper now idDraw secretDraw label ttl file ↔
      idDraw = none ∨ secretDraw = none ∨
        now.nanos + ttl ≤ maxDateTime := by
  rw [← or_assoc]
  by_cases missing : idDraw = none ∨ secretDraw = none
  · exact
      iff_of_true (mintsExactly_of_err (mintRecord_of_no_draw missing))
        (.inl missing)
  · obtain ⟨idDrawn, secretDrawn⟩ := not_or.mp missing
    obtain ⟨idBytes, rfl⟩ := Option.ne_none_iff_exists'.mp idDrawn
    obtain ⟨secretBytes, rfl⟩ := Option.ne_none_iff_exists'.mp secretDrawn
    have positive : 0 ≤ ttl := parseTtl_nonneg accepted
    by_cases within : now.nanos + ttl ≤ maxDateTime
    · obtain ⟨record, result, minted⟩ :=
        exists_mintRecord lawful positive within idBytes secretBytes
      exact
        iff_of_true (mintsExactly_of_ok lawful minted) (.inr within)
    · have panics :=
        exec_of_overflow crates pepper label file (Int.not_le.mp within)
          idBytes secretBytes
      refine iff_of_false (fun exact => exact.returns panics) ?_
      rintro (none | fits)
      · exact missing none
      · exact within fits

end Total

namespace Sample

theorem mintsExactly_iff_one_hour :
    MintsExactly Crates.sample Sample.pepper mintedAt (some idBytes)
      (some secretBytes) none Sample.ttl none := by
  have accepted : parseTtl "1h" = .ok Sample.ttl := by decide
  refine (mintsExactly_iff Crates.sample_lawful accepted).mpr ?_
  exact .inr (.inr (by decide))

/-- A lifetime of ten million days, less one, ends after the year 9999. -/
def manyDays : Int := 9999999 * 86400 * nanosPerSecond

theorem mint_of_many_days_panics :
    parseTtl "9999999d" = .ok manyDays ∧
      ((Op.mint mintedAt (some idBytes) (some secretBytes) none
          manyDays).exec Crates.sample Sample.pepper none).1 = .panicked ∧
      ¬MintsExactly Crates.sample Sample.pepper mintedAt (some idBytes)
        (some secretBytes) none manyDays none := by
  have panics :=
    exec_of_overflow Crates.sample Sample.pepper none none
      (show maxDateTime < mintedAt.nanos + manyDays by decide) idBytes
      secretBytes
  exact ⟨by decide, panics, fun exact => exact.returns panics⟩

end Sample

end HollerServer.Token
