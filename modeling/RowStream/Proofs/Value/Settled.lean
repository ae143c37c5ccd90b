import RowStream.Proofs.Calendar.Settled
import RowStream.Proofs.Calendar.Spelling
import RowStream.Proofs.Value.RoundTrip
import RowStream.Proofs.Value.Temporal

/-! The tokens of dates, times of day and timestamps, and the one of them that the value is encoded
as. -/
namespace RowStream

namespace ColumnType

open Calendar

/-- The text of a date, a time or a timestamp and the text in which the same is written: a space in
front of the clock, six digits behind the point unless they are zeros, and the offset settled. -/
inductive Settles : ScalarKind → Text → Text → Prop where
  | date (d : DateText) : Settles .date d.text d.text
  | time (c : ClockText) : Settles .time c.text c.settled.text
  | timestamp {x : TimestampText} (naive : x.offset = none) :
    Settles .timestamp x.text (x.settled none).text
  | timestamptz {x : TimestampText} {o o' : OffsetText} (given : x.offset = some o)
      (settled : o'.Settled) (same : o'.seconds = o.seconds) :
    Settles .timestamptz x.text (x.settled (some o')).text

/-- The kinds of dates and times, and with zones those texts that have an offset. -/
inductive IsTemporal : ScalarKind → Text → Prop where
  | date (t : Text) : IsTemporal .date t
  | time (t : Text) : IsTemporal .time t
  | timestamp (t : Text) : IsTemporal .timestamp t
  | timestamptz {x : TimestampText} {o : OffsetText} (given : x.offset = some o) :
    IsTemporal .timestamptz x.text

theorem Settles.unique {kind : ScalarKind} {t u w : Text} (h : Settles kind t u)
    (h' : Settles kind t w) : u = w := by
  cases h with
  | date d =>
    generalize d.text = t at h'
    cases h'
    rfl
  | time c =>
    generalize same : c.text = t at h'
    cases h'
    rw [ClockText.text_inj same]
  | timestamp naive =>
    rename_i x
    generalize same : x.text = t at h'
    cases h'
    rw [TimestampText.text_inj same]
  | timestamptz given settled total =>
    rename_i x o o'
    generalize same : x.text = t at h'
    cases h' with
    | timestamptz given' settled' total' =>
      obtain rfl := TimestampText.text_inj same
      obtain rfl := Option.some.inj (given.symm.trans given')
      rw [settled.eq_of_seconds settled' (total.trans total'.symm)]

variable {kind : ScalarKind} {a : Attributes} {t : Text} {v : Value}

section

variable [ZoneDatabase]

theorem temporal_of_decodeScalar {token : Text} (temporal : IsTemporal kind token)
    (read : decodeScalar kind a t = .ok v) : Temporal t := by
  cases temporal with
  | date =>
    obtain ⟨d, read, -⟩ := Except.of_map_eq_ok read
    obtain ⟨x, rfl, -⟩ := decodeDate_eq_ok_iff.1 read
    exact x.marked.temporal
  | time =>
    obtain ⟨c, read, -⟩ := Except.of_map_eq_ok read
    obtain ⟨x, rfl, -⟩ := decodeTime_eq_ok_iff.1 read
    exact x.marked.temporal
  | timestamp =>
    obtain ⟨s, read, -⟩ := Except.of_map_eq_ok read
    obtain ⟨x, rfl, -⟩ := decodeTimestamp_false_eq_ok_iff.1 read
    exact x.temporal
  | timestamptz given =>
    obtain ⟨s, read, -⟩ := Except.of_map_eq_ok read
    obtain ⟨x, rfl, -⟩ := decodeTimestamp_true_eq_ok_iff.1 read
    exact x.temporal

/-- The value is written as the text and read from it, and the text needs no escapes. -/
structure WrittenAs (kind : ScalarKind) (a : Attributes) (v : Value) (u : Text) : Prop where
  rendered : renderScalar kind a v = .ok u
  read : decodeScalar kind a u = .ok v
  plain : ∀ c ∈ u, Text.isPlain c

theorem date_settles (read : decodeScalar .date a t = .ok v) :
    ∃ u, Settles .date t u ∧ WrittenAs .date a v u := by
  obtain ⟨d, found, rfl⟩ := Except.of_map_eq_ok read
  obtain ⟨x, rfl, same⟩ := decodeDate_eq_ok_iff.1 found
  have written : d.isoText = x.text := by rw [← DateText.text_ofDate, DateText.ofDate_eq same]
  refine ⟨x.text, .date x, ?_, read, ?_⟩
  · rw [renderScalar, written]
  · rw [← written]
    exact (bare_date d).plain

theorem time_settles (read : decodeScalar .time a t = .ok v) :
    ∃ u, Settles .time t u ∧ WrittenAs .time a v u := by
  obtain ⟨c, found, rfl⟩ := Except.of_map_eq_ok read
  obtain ⟨x, rfl, same⟩ := decodeTime_eq_ok_iff.1 found
  have again := ClockText.fields_ofTime c
  have written := ClockText.text_ofTime c
  rw [ClockText.ofTime_eq same] at again written
  refine ⟨x.settled.text, .time x, ?_, ?_, ?_⟩
  · rw [renderScalar, written]
  · rw [decodeScalar, decodeTime_eq_ok_iff.2 ⟨_, rfl, again⟩]
    rfl
  · rw [written]
    exact (bare_time c).plain

theorem timestamp_settles (read : decodeScalar .timestamp a t = .ok v) :
    ∃ u, Settles .timestamp t u ∧ WrittenAs .timestamp a v u := by
  obtain ⟨s, found, rfl⟩ := Except.of_map_eq_ok read
  obtain ⟨x, rfl, bare, shows, naive⟩ := decodeTimestamp_false_eq_ok_iff.1 found
  have unknown : s.offset? = none := by rw [Timestamp.offset?, naive]; rfl
  have written := TimestampText.text_ofTimestamp (t := s) (by simp [unknown])
  rw [TimestampText.ofTimestamp_eq shows] at written
  simp only [unknown, Option.pmap_none] at written
  refine ⟨_, .timestamp bare, ?_, ?_, ?_⟩
  · rw [renderScalar, written]
  · rw [decodeScalar,
      decodeTimestamp_false_eq_ok_iff.2 ⟨_, rfl, rfl, shows.settled none, naive⟩]
    rfl
  · rw [written]
    exact (bare_timestamp s).plain

theorem timestamptz_settles {x : TimestampText} {o : OffsetText} (given : x.offset = some o)
    (read : decodeScalar .timestamptz a x.text = .ok v) :
    ∃ u, Settles .timestamptz x.text u ∧ WrittenAs .timestamptz a v u := by
  obtain ⟨s, found, rfl⟩ := Except.of_map_eq_ok read
  obtain ⟨y, same, shows, zone, fixed, zoned⟩ := decodeTimestamp_true_eq_ok_iff.1 found
  obtain rfl := TimestampText.text_inj same
  rw [given, Option.map_some] at fixed
  obtain ⟨day, rfl⟩ := timestampZone_eq_ok_iff.1 fixed
  have known : s.offset? = some o.seconds := by rw [Timestamp.offset?, zoned]; rfl
  have total := OffsetText.seconds_ofSeconds day
  have written := TimestampText.text_ofTimestamp (t := s) (by simp [known, day])
  rw [TimestampText.ofTimestamp_eq shows] at written
  simp only [known, Option.pmap_some] at written
  refine ⟨_, .timestamptz given (OffsetText.settled_ofSeconds day) total, ?_, ?_, ?_⟩
  · rw [renderScalar, written]
  · rw [decodeScalar, decodeTimestamp_true_eq_ok_iff.2 ⟨_, rfl, shows.settled _, _, ?_, zoned⟩]
    · rfl
    · rw [TimestampText.settled, Option.map_some, total]
      exact fixed
  · rw [written]
    exact (bare_timestamp s).plain

/-- What is read from a text is written as its settled form. -/
theorem exists_settles (temporal : IsTemporal kind t) (read : decodeScalar kind a t = .ok v) :
    ∃ u, Settles kind t u ∧ WrittenAs kind a v u := by
  cases temporal with
  | date => exact date_settles read
  | time => exact time_settles read
  | timestamp => exact timestamp_settles read
  | timestamptz given => exact timestamptz_settles given read

/-- A token of a date, a time or a timestamp settles in exactly one form. It is this form that the
value of the token is encoded as, and that is decoded as the same value again. -/
theorem encode_decode_temporal (temporal : IsTemporal kind t)
    (read : decode (.scalar kind a) t = .ok v) (present : v ≠ .null) :
    ∃ u, (∀ w, Settles kind t w ↔ w = u) ∧ encode (.scalar kind a) v = .ok u ∧
      decode (.scalar kind a) u = .ok v := by
  have found : decodeScalar kind a (Token.unescape t) = .ok v := by
    rw [decode, decodeAs] at read
    split at read
    · cases read
      exact absurd rfl present
    · exact read
  rw [(temporal_of_decodeScalar temporal found).of_unescape] at found
  obtain ⟨u, settles, written⟩ := exists_settles temporal found
  obtain ⟨encoded, decoded⟩ := decode_escape present written.rendered written.read
  rw [Text.escape_of_isPlain written.plain] at encoded decoded
  refine ⟨u, fun w => ⟨fun other => other.unique settles, ?_⟩, encoded, decoded⟩
  rintro rfl
  exact settles

end

/-- No digit of the fraction counts, and the offset goes west by less than an hour. -/
theorem encode_decode_temporal_west : ∃ v,
    decode (.scalar .timestamptz {}) "2024-02-29T23:59:59.0000009-003005".toList = .ok v ∧
    encode (.scalar .timestamptz {}) v = .ok "2024-02-29 23:59:59-00:30:05".toList ∧
    decode (.scalar .timestamptz {}) "2024-02-29 23:59:59-00:30:05".toList = .ok v ∧
    Settles .timestamptz "2024-02-29T23:59:59.0000009-003005".toList
      "2024-02-29 23:59:59-00:30:05".toList := by
  have read : decode (.scalar .timestamptz {}) "2024-02-29T23:59:59.0000009-003005".toList =
      .ok (.timestamp ⟨⟨2024, 2, 29, by decide⟩, ⟨23, 59, 59, 0, by decide⟩,
        some (.fixed ⟨-1805, by decide⟩), false⟩) := rfl
  have fields : timestamp? "2024-02-29T23:59:59.0000009-003005".toList =
      some ⟨⟨2024, 2, 29⟩, ⟨23, 59, 59, 0⟩, some (-1805)⟩ := rfl
  obtain ⟨x, written, same⟩ := timestamp?_eq_some_iff.1 fields
  obtain ⟨o, given, -⟩ := Option.map_eq_some_iff.1 (congrArg TimestampFields.offset same)
  have temporal : IsTemporal .timestamptz x.text := .timestamptz given
  rw [written] at temporal
  obtain ⟨u, unique, encoded, decoded⟩ := encode_decode_temporal temporal read (by simp)
  obtain rfl : "2024-02-29 23:59:59-00:30:05".toList = u := Except.ok.inj encoded
  exact ⟨_, read, encoded, decoded, (unique _).2 rfl⟩

end ColumnType

end RowStream
