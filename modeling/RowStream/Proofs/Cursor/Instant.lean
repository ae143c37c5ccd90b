import RowStream.Proofs.Calendar.Instant
import RowStream.Proofs.Cursor.Run
import RowStream.Proofs.Value.Temporal
import RowStream.Source.Basic

/-! Timestamps with an offset as cursors read them: as one instant, from zoned columns of every
kind and from texts, and in whatever zone the caller chooses. -/
namespace RowStream

open Calendar ColumnType Timestamp

namespace Value

variable {x : TimestampText} {t : Timestamp} {choice : ZoneChoice}

theorem toTimestamp_timestamp [ZoneDatabase] :
    (timestamp t).toTimestamp choice = (t.inUtc choice).mapError Error.calendar := rfl

theorem toTime_timestamp [ZoneDatabase] :
    (timestamp t).toTime choice = (t.utcTime choice).mapError Error.calendar := rfl

/-- A text with an offset is converted as if it had been decoded in a zoned column. -/
theorem toTimestamp_text [ZoneDatabase] (zoned : decodeTimestamp true {} x.text = .ok t)
    (refused : ∃ e, decodeTimestamp false {} x.text = .error e) :
    (text x.text).toTimestamp choice = (timestamp t).toTimestamp choice := by
  obtain ⟨e, refused⟩ := refused
  have read : textTimestamp (Text.trim x.text) = .ok t := by
    rw [x.trim_text, textTimestamp, refused]
    exact zoned
  change (textTimestamp (Text.trim x.text) >>= toTimestamp.inUtc choice) = _
  rw [read]
  rfl

theorem toDate_timestamp [ZoneDatabase] {zone : Zone} (h : choice.zone = .ok zone) :
    (timestamp t).toDate choice = .ok t.date := by
  change toDate.inZone choice t.date = _
  rw [toDate.inZone, h]

end Value

namespace Cursor

variable {σ : Type} {c : Cursor σ} {tokens : List Text} {ref : ColumnRef} {i : Nat}
  {kind : ScalarKind} {a : Attributes} {x : TimestampText} {o : OffsetText}

theorem fieldValue_of_temporal [ZoneDatabase] {columns : List Column} {text : Text}
    (temporal : Temporal text) (typed : columns[i]?.map Column.type = some (.scalar kind a))
    (token : tokens[i]? = some text) : fieldValue columns tokens i = decodeScalar kind a text := by
  obtain ⟨column, stands, type⟩ := Option.map_eq_some_iff.1 typed
  rw [fieldValue, stands, token, ← decode_of_temporal temporal, ← type]

/-- On the token of a timestamp with an offset, the accessors go by one zoned timestamp. -/
theorem exists_zoned_of_row [ZoneDatabase] (cached : c.Cached) (row : c.currentRow = .ok tokens)
    (found : Column.indexOf c.columns ref = .ok i) (known : kind = .timestamptz ∨ kind = .text)
    (typed : c.columns[i]?.map Column.type = some (.scalar kind a))
    (token : tokens[i]? = some x.text) (exist : x.Exists) (given : x.offset = some o) :
    ∃ t : Timestamp, x.Shows t ∧ t.zone = some (.fixed ⟨o.seconds, exist.offset o given⟩) ∧
      (∀ choice, (c.getTimestamp ref choice).1 = some <$> (Value.timestamp t).toTimestamp choice) ∧
      (kind = .timestamptz → ∀ choice,
        (c.getTime ref choice).1 = some <$> (Value.timestamp t).toTime choice ∧
        (c.getDate ref choice).1 = some <$> (Value.timestamp t).toDate choice) := by
  obtain ⟨t, shows, zoned, read, refused⟩ := decodeTimestamp_of_offset exist given
  have value := fieldValue_of_temporal x.temporal typed token
  refine ⟨t, shows, zoned, ?_⟩
  obtain rfl | rfl := known
  · rw [decodeScalar, read a] at value
    have converted {α : Type} (convert : Value → Except Error (Option α)) :=
      readAs_of_row cached row found value (by simp) none convert
    exact ⟨fun _ => converted _, fun _ _ => ⟨converted _, converted _⟩⟩
  · refine ⟨fun choice => ?_, fun zoned => by cases zoned⟩
    rw [← Value.toTimestamp_text (read {}) (refused {})]
    exact readAs_of_row cached row found value (by simp) none _

/-- A timestamp with an offset is read as the instant of the count `m`, and from a zoned column also
as the time of that instant and as the date that is written. -/
structure ReadsInstant [ZoneDatabase] (c : Cursor σ) (ref : ColumnRef) (kind : ScalarKind)
    (x : TimestampText) (m : Int) : Prop where
  inside : InCalendar m → ∃ u : Timestamp, u.ShowsInstant m ∧ ∀ choice,
    (c.getTimestamp ref choice).1 = .ok (some u) ∧
      (kind = .timestamptz → (c.getTime ref choice).1 = .ok (some u.time))
  outside : ¬ InCalendar m → ∀ choice,
    (c.getTimestamp ref choice).1 = .error (.calendar .beyondCalendar) ∧
      (kind = .timestamptz → (c.getTime ref choice).1 = .error (.calendar .beyondCalendar))
  date : kind = .timestamptz → ∃ d : Date, fieldsOf d = x.date.fields ∧
    ∀ choice zone, choice.zone = .ok zone → (c.getDate ref choice).1 = .ok (some d)

variable [Source σ] {source : σ} {origin : Origin} {statement : Option Statement}

/-- Wherever a cursor comes to the token of a timestamp with an offset of less than a day, it reads
the instant that lies by this offset before what is written. -/
theorem instant_run [ZoneDatabase] (opened : openOn source origin statement = .ok c)
    (ops : List Operation) (row : (c.run ops).2.currentRow = .ok tokens)
    (found : Column.indexOf c.columns ref = .ok i) (known : kind = .timestamptz ∨ kind = .text)
    (typed : c.columns[i]?.map Column.type = some (.scalar kind a))
    (token : tokens[i]? = some x.text) (exist : x.Exists) (given : x.offset = some o) :
    ReadsInstant (c.run ops).2 ref kind x (x.wallMicroseconds - o.seconds * 1000000) := by
  have cached := (follows_run (follows_openOn opened).1 ops).cached
  rw [← columns_run c ops] at found typed
  obtain ⟨t, shows, zoned, timestamp, others⟩ :=
    exists_zoned_of_row cached row found known typed token exist given
  have instant := congrArg (· - o.seconds * 1000000) (TimestampText.wallMicroseconds_eq shows)
  refine ⟨fun inside => ?_, fun outside choice => ?_, fun known => ⟨t.date, shows.date.symm, ?_⟩⟩
  · obtain ⟨u, shown, moved⟩ | ⟨outside, -⟩ := inUtc_of_offset zoned shows.fold instant
    · refine ⟨u, shown, fun choice => ⟨?_, fun known => ?_⟩⟩
      · rw [timestamp, Value.toTimestamp_timestamp, moved]
        rfl
      · rw [(others known choice).1, Value.toTime_timestamp, utcTime, moved]
        rfl
    · exact absurd inside outside
  · obtain ⟨u, shown, -⟩ | ⟨-, refused⟩ := inUtc_of_offset zoned shows.fold instant
    · exact absurd (shown.count ▸ u.inCalendar_wallMicroseconds) outside
    · refine ⟨?_, fun known => ?_⟩
      · rw [timestamp, Value.toTimestamp_timestamp, refused]
        rfl
      · rw [(others known choice).1, Value.toTime_timestamp, utcTime, refused]
        rfl
  · intro choice zone resolved
    rw [(others known choice).2, Value.toDate_timestamp resolved]
    rfl

/-- Half an hour into March an hour east of UTC, in a column of another zone and in one of texts. -/
theorem instant_run_leap_day :
    let source := ScriptSource.ofScript [.ok (Utf8.encode
      ("a\tb\nDateTime('Europe/Berlin')\ttext\n".toList ++
        "2024-03-01 00:30:00.123456+01:00\t2024-03-01 00:30:00.123456+01:00\n".toList))] false
    let u : Timestamp :=
      ⟨⟨2024, 2, 29, by decide⟩, ⟨23, 30, 0, 123456, by decide⟩, some .utc, false⟩
    ∃ c, openOn source {} none = .ok c ∧ ∀ choice,
      ((c.run [.move .advance]).2.getTimestamp (.position 1) choice).1 = .ok (some u) ∧
      ((c.run [.move .advance]).2.getTimestamp (.position 2) choice).1 = .ok (some u) := by
  intro source u
  let o : OffsetText := .ofSeconds 3600 (by decide)
  let x : TimestampText := ⟨.ofDate ⟨2024, 3, 1, by decide⟩, ' ', TimestampText.space_separates,
    .ofTime ⟨0, 30, 0, 123456, by decide⟩, some o⟩
  have exist : x.Exists := by
    refine ⟨by decide, by decide, by decide, by decide, ?_⟩
    rintro _ ⟨⟩
    decide
  have stands : (openOn source {} none).toOption.map (fun c =>
      ((c.run [.move .advance]).2.position, c.columns.map Column.type)) =
      some (.onRow 1 [x.text, x.text],
        [.scalar .timestamptz { timezone := some "Europe/Berlin".toList }, .scalar .text {}]) := by
    decide +kernel
  obtain ⟨c, opened, facts⟩ := Except.exists_of_toOption_map_eq_some stands
  obtain ⟨position, types⟩ := Prod.mk.inj facts
  refine ⟨c, opened, fun choice => ?_⟩
  have row : (c.run [.move .advance]).2.currentRow = .ok [x.text, x.text] := by
    rw [currentRow, position]
  have two : c.columns.length = 2 := by simpa using congrArg List.length types
  have shows : u.ShowsInstant (x.wallMicroseconds - o.seconds * 1000000) :=
    ⟨rfl, rfl, by decide +kernel⟩
  have inside := u.inCalendar_wallMicroseconds
  rw [shows.count] at inside
  have first : Column.indexOf c.columns (.position 1) = .ok 0 := by simp [Column.indexOf, two]
  have second : Column.indexOf c.columns (.position 2) = .ok 1 := by simp [Column.indexOf, two]
  have zoned := instant_run opened [.move .advance] row first (.inl rfl)
    (by rw [← List.getElem?_map, types]; rfl) rfl exist rfl
  have texts := instant_run opened [.move .advance] row second (.inr rfl)
    (by rw [← List.getElem?_map, types]; rfl) rfl exist rfl
  obtain ⟨v, shown, read⟩ := zoned.inside inside
  obtain ⟨w, shown', read'⟩ := texts.inside inside
  obtain rfl := shown.unique shows
  obtain rfl := shown'.unique shows
  exact ⟨(read choice).1, (read' choice).1⟩

end Cursor

end RowStream
