import RowStream.Calendar.RegionTable
import RowStream.Proofs.Calendar.Spelling
import RowStream.Proofs.Calendar.Written
import RowStream.Proofs.Success
import RowStream.Value.Decoding

/-! Dates, times of day and timestamps as they are read: which texts are taken, and what comes of
their parts. -/
namespace RowStream.ColumnType

open Calendar

variable {a : Attributes} {text : Text} {t : Timestamp}

/-- There is nothing to resolve in the token of a date or a time, and it is not null. -/
theorem decode_of_temporal [ZoneDatabase] {kind : ScalarKind} (h : Temporal text) :
    decode (.scalar kind a) text = decodeScalar kind a text := by
  rw [decode, decodeAs, if_neg h.ne_null, h.unescape_eq]

theorem accepted_eq_ok_iff {α : Type} {type : ColumnType} {value : Except Fault α} {x : α} :
    accepted text type value = .ok x ↔ value = .ok x := by
  constructor
  · exact Except.of_mapError_eq_ok
  · rintro rfl
    rfl

theorem decodeDate_eq_ok_iff {d : Date} :
    decodeDate a text = .ok d ↔ ∃ x : DateText, x.text = text ∧ x.fields = fieldsOf d := by
  rw [decodeDate]
  constructor
  · intro h
    split at h
    · rename_i fields read
      obtain ⟨x, rfl, rfl⟩ := date?_eq_some_iff.1 read
      exact ⟨x, rfl, date_eq_ok_iff.1 (accepted_eq_ok_iff.1 h)⟩
    · cases h
  · rintro ⟨x, written, same⟩
    rw [date?_eq_some_iff.2 ⟨x, written, same⟩]
    exact accepted_eq_ok_iff.2 (date_fieldsOf d)

theorem decodeTime_eq_ok_iff {t : TimeOfDay} :
    decodeTime a text = .ok t ↔ ∃ x : ClockText, x.text = text ∧ x.fields = clockOf t := by
  rw [decodeTime]
  constructor
  · intro h
    split at h
    · rename_i fields read
      obtain ⟨x, rfl, rfl⟩ := clock?_eq_some_iff.1 read
      exact ⟨x, rfl, (time_eq_ok_iff (ClockText.microsecond_lt _)).1 (accepted_eq_ok_iff.1 h)⟩
    · cases h
  · rintro ⟨x, written, same⟩
    rw [clock?_eq_some_iff.2 ⟨x, written, same⟩]
    exact accepted_eq_ok_iff.2 (time_clockOf t)

theorem timestampZone_eq_ok_iff [ZoneDatabase] {o : Int} {timezone : Option Text} {zone : Zone} :
    timestampZone (some o) timezone = .ok zone ↔
      ∃ h : -86400 < o ∧ o < 86400, zone = .fixed ⟨o, h⟩ := by
  constructor
  · intro h
    obtain ⟨offset, made, rfl⟩ := Except.of_map_eq_ok h
    rw [UtcOffset.ofSeconds] at made
    split at made
    · cases made
      exact ⟨_, rfl⟩
    · cases made
  · rintro ⟨h, rfl⟩
    rw [timestampZone, UtcOffset.ofSeconds, dif_pos h]
    rfl

/-- A text without an offset is read as the timestamp that it shows. -/
theorem decodeTimestamp_false_eq_ok_iff [ZoneDatabase] : decodeTimestamp false a text = .ok t ↔
    ∃ x : TimestampText, x.text = text ∧ x.offset = none ∧ x.Shows t ∧ t.zone = none := by
  constructor
  · intro h
    rw [decodeTimestamp] at h
    split at h
    · cases h
    · rename_i fields read
      obtain ⟨x, rfl, rfl⟩ := timestamp?_eq_some_iff.1 read
      split at h
      · cases h
      · rename_i free
        have bare : x.offset = none := by simpa [TimestampText.fields] using free
        obtain ⟨⟨date, time⟩, wall, made⟩ := Except.of_bind_eq_ok (Except.of_mapError_eq_ok h)
        cases made
        exact ⟨x, rfl, bare, (TimestampText.shows_iff_wall rfl).2 wall, rfl⟩
  · rintro ⟨x, rfl, bare, shows, naive⟩
    have wall := (TimestampText.shows_iff_wall shows.fold).1 shows
    obtain ⟨date, time, zone, fold⟩ := t
    obtain rfl : zone = none := naive
    obtain rfl : fold = false := shows.fold
    have free : x.fields.offset = none := by rw [TimestampText.fields, bare]; rfl
    rw [decodeTimestamp, timestamp?_text]
    simp only [free, Option.isSome_none, Bool.false_eq_true, false_and, if_false, wall]
    rfl

/-- A text is read as the timestamp that it shows, in the zone of its offset or, without one, of
its type. -/
theorem decodeTimestamp_true_eq_ok_iff [ZoneDatabase] : decodeTimestamp true a text = .ok t ↔
    ∃ x : TimestampText, x.text = text ∧ x.Shows t ∧
      ∃ zone, timestampZone (x.offset.map OffsetText.seconds) a.timezone = .ok zone ∧
        t.zone = some zone := by
  constructor
  · intro h
    rw [decodeTimestamp] at h
    split at h
    · cases h
    · rename_i fields read
      obtain ⟨x, rfl, rfl⟩ := timestamp?_eq_some_iff.1 read
      rw [if_neg (by simp)] at h
      obtain ⟨⟨date, time⟩, wall, h⟩ := Except.of_bind_eq_ok (Except.of_mapError_eq_ok h)
      obtain ⟨zone, found, made⟩ := Except.of_bind_eq_ok h
      cases made
      exact ⟨x, rfl, (TimestampText.shows_iff_wall rfl).2 wall, zone, found, rfl⟩
  · rintro ⟨x, rfl, shows, zone, found, zoned⟩
    have wall := (TimestampText.shows_iff_wall shows.fold).1 shows
    obtain ⟨date, time, known, fold⟩ := t
    obtain rfl : known = some zone := zoned
    obtain rfl : fold = false := shows.fold
    have found' : timestampZone x.fields.offset a.timezone = .ok zone := found
    rw [decodeTimestamp, timestamp?_text]
    simp only [not_true_eq_false, and_false, if_false, wall, if_true]
    change accepted _ _ (timestampZone x.fields.offset a.timezone >>= _) = _
    rw [found']
    rfl

theorem decodeTimestamp_true_isOk_iff [ZoneDatabase] (unnamed : a.timezone = none) :
    (decodeTimestamp true a text).isOk ↔ ∃ x : TimestampText, x.text = text ∧ x.Exists := by
  constructor
  · intro h
    obtain ⟨t, -, x, rfl, shows, zone, found, -⟩ :=
      Except.exists_of_isOk h fun t read => decodeTimestamp_true_eq_ok_iff.1 read
    refine ⟨x, rfl, shows.exists ?_⟩
    intro o given
    rw [given] at found
    exact (timestampZone_eq_ok_iff.1 found).1
  · rintro ⟨x, rfl, h⟩
    have found : ∃ zone, timestampZone (x.offset.map OffsetText.seconds) a.timezone = .ok zone := by
      cases given : x.offset with
      | none => exact ⟨.utc, by rw [unnamed]; rfl⟩
      | some o => exact ⟨_, timestampZone_eq_ok_iff.2 ⟨h.offset o given, rfl⟩⟩
    obtain ⟨zone, found⟩ := found
    obtain ⟨t, shows, zoned⟩ := h.shows (some zone)
    rw [decodeTimestamp_true_eq_ok_iff.2 ⟨x, rfl, shows, zone, found, zoned⟩]
    rfl

/-- A timestamp with an offset is read in the zone of that offset, whatever zone the type names, and
where zones are not read it is refused. -/
theorem decodeTimestamp_of_offset [ZoneDatabase] {x : TimestampText} {o : OffsetText} (h : x.Exists)
    (given : x.offset = some o) : ∃ t, x.Shows t ∧
      t.zone = some (.fixed ⟨o.seconds, h.offset o given⟩) ∧
      (∀ a, decodeTimestamp true a x.text = .ok t) ∧
      ∀ a, ∃ e, decodeTimestamp false a x.text = .error e := by
  obtain ⟨t, shows, zoned⟩ := h.shows (some (.fixed ⟨o.seconds, h.offset o given⟩))
  refine ⟨t, shows, zoned, fun a => ?_, fun a => ?_⟩
  · refine decodeTimestamp_true_eq_ok_iff.2 ⟨x, rfl, shows, _, ?_, zoned⟩
    rw [given]
    exact timestampZone_eq_ok_iff.2 ⟨_, rfl⟩
  · cases read : decodeTimestamp false a x.text with
    | error e => exact ⟨e, rfl⟩
    | ok s =>
      obtain ⟨y, same, bare, -⟩ := decodeTimestamp_false_eq_ok_iff.1 read
      obtain rfl := TimestampText.text_inj same
      rw [given] at bare
      cases bare

theorem accepted_failed {α : Type} {type : ColumnType} (value : Except Fault α) :
    (accepted text type value).FailsOnly fun e => ∃ reason, e = failed text type reason := by
  intro e refused
  obtain ⟨fault, -, rfl⟩ := Except.of_mapError_eq_error refused
  exact ⟨.calendar fault, rfl⟩

theorem decodeTimestamp_failed [ZoneDatabase] : (decodeTimestamp true a text).FailsOnly fun e =>
    ∃ reason, e = failed text (scalar .timestamptz a) reason := by
  rw [decodeTimestamp]
  split
  · exact Except.failsOnly_error ⟨_, rfl⟩
  · rw [if_neg (by simp)]
    exact accepted_failed _

/-- Under a zoned type that names no zone exactly the timestamps that exist are read. Of the texts
whose offset has neither sixty minutes nor sixty seconds these are the proper timestamps. For any
other text it is the value that is at fault. -/
theorem decodeText_timestamptz [ZoneDatabase] (unnamed : a.timezone = none) (text : Text) :
    let type := ColumnType.scalar .timestamptz a
    ((type.decodeText text).isOk ↔ ∃ x : TimestampText, x.text = text ∧ x.Exists) ∧
    ((∀ x : TimestampText, x.text = text → x.Limited) →
      ((type.decodeText text).isOk ↔
        ∃ x : TimestampText, x.text = text ∧ x.Exists ∧ x.Limited)) ∧
    ∀ e, type.decodeText text = .error e → ∃ reason, e = failed text type reason := by
  intro type
  have scalar : type.decodeText text = .timestamp <$> decodeTimestamp true a text := rfl
  have same : (type.decodeText text).isOk = (decodeTimestamp true a text).isOk := by
    rw [scalar]
    cases decodeTimestamp true a text <;> rfl
  have read : (type.decodeText text).isOk ↔ ∃ x : TimestampText, x.text = text ∧ x.Exists := by
    rw [same]
    exact decodeTimestamp_true_isOk_iff unnamed
  refine ⟨read, ?_, ?_⟩
  · intro limited
    rw [read]
    constructor
    · rintro ⟨x, written, h⟩
      exact ⟨x, written, h, limited x written⟩
    · rintro ⟨x, written, h, -⟩
      exact ⟨x, written, h⟩
  · intro e refused
    rw [scalar] at refused
    exact decodeTimestamp_failed e (Except.of_map_eq_error refused)

/-- The last second of a leap day, half an hour and five west of UTC. -/
theorem decodeText_timestamptz_leap_day :
    let type := ColumnType.scalar .timestamptz {}
    let text := "2024-02-29T23:59:59.500000-0530".toList
    (∀ x : TimestampText, x.text = text → x.Limited) ∧ (type.decodeText text).isOk := by
  intro type text
  let written : TimestampText := ⟨.ofDate ⟨2024, 2, 29, by decide⟩, 'T', .inr rfl,
    .ofTime ⟨23, 59, 59, 500000, by decide⟩, some (.signed true
      (.minutes (.ofNat (n := 5) (by decide) (by decide)) false
        (.ofNat (n := 30) (by decide) (by decide))))⟩
  have same : written.text = text := by decide
  have limited : ∀ x : TimestampText, x.text = text → x.Limited := by
    intro x other o given
    obtain rfl := TimestampText.text_inj (other.trans same.symm)
    cases given
    decide
  have exist : written.Exists := by
    refine ⟨by decide, by decide, by decide, by decide, ?_⟩
    rintro o ⟨⟩
    decide
  exact ⟨limited, ((decodeText_timestamptz rfl text).2.1 limited).2
    ⟨written, same, exist, limited written same⟩⟩

/-- Seventy-five minutes are taken for an hour and fifteen. -/
theorem decodeText_carried_minutes :
    let type := ColumnType.scalar .timestamptz {}
    let text := "2024-01-15 10:30:00+05:75".toList
    type.decodeText text = .ok (.timestamp ⟨⟨2024, 1, 15, by decide⟩, ⟨10, 30, 0, 0, by decide⟩,
      some (.fixed ⟨22500, by decide⟩), false⟩) ∧
    ¬ ∃ x : TimestampText, x.text = text ∧ x.Exists ∧ x.Limited := by
  refine ⟨rfl, ?_⟩
  rintro ⟨x, same, -, limited⟩
  let written : TimestampText := ⟨.ofDate ⟨2024, 1, 15, by decide⟩, ' ', .inl rfl,
    .ofTime ⟨10, 30, 0, 0, by decide⟩, some (.signed false
      (.minutes (.ofNat (n := 5) (by decide) (by decide)) true
        (.ofNat (n := 75) (by decide) (by decide))))⟩
  obtain rfl : x = written := TimestampText.text_inj (same.trans (by rfl))
  exact absurd (limited _ rfl).1 (by decide)

end RowStream.ColumnType
