import RowStream.Proofs.Calendar.Grammar
import RowStream.Proofs.Success

/-! Dates, times and offsets are written as texts of the grammar, and are read back from them. -/
namespace RowStream.Calendar

/-- The digits of a number that is small enough for them. -/
def Digits.ofNat {count n : Nat} (h : n < Nat.pow 10 count) (wide : 0 < count) : Digits count :=
  ⟨Text.padded count n, Text.length_padded h wide, (Text.writes_padded count n).digits⟩

theorem Digits.value_ofNat {count n : Nat} (h : n < Nat.pow 10 count) (wide : 0 < count) :
    (Digits.ofNat h wide).value = n :=
  (Text.writes_padded count n).value

theorem daysInMonth_le (year month : Nat) : daysInMonth year month ≤ 31 := by
  unfold daysInMonth
  split
  · split <;> omega
  all_goals omega

def fieldsOf (d : Date) : DateFields := ⟨d.year, d.month, d.day⟩

def clockOf (t : TimeOfDay) : ClockFields := ⟨t.hour, t.minute, t.second, t.microsecond⟩

theorem date_fieldsOf (d : Date) : (fieldsOf d).date = .ok d :=
  dif_pos d.valid

theorem time_clockOf (t : TimeOfDay) : (clockOf t).time = .ok t := by
  obtain ⟨hour, minute, second, microsecond, valid⟩ := t
  have wrapped := Nat.mod_eq_of_lt valid.2.2.2
  simp [clockOf, ClockFields.time, TimeOfDay.ofFields, valid, wrapped]

/-- Fields make a date if they are its own. -/
theorem date_eq_ok_iff {f : DateFields} {d : Date} : f.date = .ok d ↔ f = fieldsOf d := by
  constructor
  · intro h
    rw [DateFields.date, Date.ofFields] at h
    split at h
    · cases h
      rfl
    · split at h
      · cases h
      · split at h <;> cases h
  · rintro rfl
    exact date_fieldsOf d

/-- The microseconds of a clock's fields are those of a fraction, fewer than make a second. -/
theorem time_eq_ok_iff {f : ClockFields} (small : f.microsecond < 1000000) {t : TimeOfDay} :
    f.time = .ok t ↔ f = clockOf t := by
  constructor
  · intro h
    have wrapped := Nat.mod_eq_of_lt small
    rw [ClockFields.time, TimeOfDay.ofFields] at h
    split at h
    · cases h
      simp only [clockOf, wrapped]
    · split at h
      · cases h
      · split at h <;> cases h
  · rintro rfl
    exact time_clockOf t

namespace DateText

def ofDate (d : Date) : DateText :=
  have month_le := d.valid.2.2.2.1
  have day_le := Nat.le_trans d.valid.2.2.2.2.2 (daysInMonth_le d.year d.month)
  ⟨.ofNat (Nat.lt_succ_of_le d.valid.2.1) (by decide),
    .ofNat (Nat.lt_of_le_of_lt month_le (by decide)) (by decide),
    .ofNat (Nat.lt_of_le_of_lt day_le (by decide)) (by decide)⟩

@[simp] theorem text_ofDate (d : Date) : (ofDate d).text = d.isoText := by
  simp [text, ofDate, Digits.ofNat, Date.isoText]

theorem fields_ofDate (d : Date) : (ofDate d).fields = fieldsOf d := by
  simp only [fields, ofDate, Digits.value_ofNat]
  rfl

end DateText

/-- The digits that count: six of them, with zeros behind where fewer are written. -/
def Fraction.sixPlaces (f : Fraction) : Text := (f.text ++ List.replicate 6 '0').take 6

theorem Fraction.length_sixPlaces (f : Fraction) : f.sixPlaces.length = 6 := by
  rw [sixPlaces, List.length_take, List.length_append, List.length_replicate]
  omega

theorem Fraction.writes_sixPlaces (f : Fraction) :
    f.sixPlaces.Writes (ClockText.microsecond (some f)) := by
  have zeros : ∀ c ∈ List.replicate 6 '0', c.isDigit := by simp
  have digits : ∀ c ∈ f.text ++ List.replicate 6 '0', c.isDigit := by
    intro c mem
    exact (List.mem_append.1 mem).elim (f.digits c) (zeros c)
  refine ⟨fun c mem => digits c (List.mem_of_mem_take mem), ?_⟩
  rw [ClockText.microsecond, microseconds, sixPlaces, Text.filterMap_take digits,
    List.filterMap_append]
  rfl

namespace ClockText

theorem microsecond_lt (f : Option Fraction) : microsecond f < 1000000 := by
  cases f with
  | none => decide
  | some f =>
    have small := f.writes_sixPlaces.lt
    rwa [f.length_sixPlaces] at small

/-- Six digits, unless they were all zeros. -/
def fractionOf (microsecond : Nat) (h : microsecond < 1000000) : Option Fraction :=
  have length : (Text.padded 6 microsecond).length = 6 := Text.length_padded h (by decide)
  if microsecond = 0 then none
  else some ⟨Text.padded 6 microsecond, (Text.writes_padded 6 microsecond).digits, by omega⟩

theorem microsecond_fractionOf {n : Nat} (h : n < 1000000) : microsecond (fractionOf n h) = n := by
  have written := Text.writes_padded 6 n
  have length : (Text.padded 6 n).length = 6 := Text.length_padded h (by decide)
  by_cases whole : n = 0
  · rw [fractionOf, if_pos whole, whole]
    rfl
  · rw [fractionOf, if_neg whole, microsecond, microseconds]
    rw [List.take_left' ((Text.length_filterMap_digit? written.digits).trans length), written.value]

def ofTime (t : TimeOfDay) : ClockText :=
  ⟨.ofNat (Nat.lt_trans t.valid.1 (by decide)) (by decide),
    .ofNat (Nat.lt_trans t.valid.2.1 (by decide)) (by decide),
    .ofNat (Nat.lt_trans t.valid.2.2.1 (by decide)) (by decide),
    fractionOf t.microsecond t.valid.2.2.2⟩

@[simp] theorem text_ofTime (t : TimeOfDay) : (ofTime t).text = t.isoText := by
  by_cases whole : t.microsecond = 0
  · simp [text, ofTime, Digits.ofNat, TimeOfDay.isoText, fractionOf, fractionText, whole]
  · simp [text, ofTime, Digits.ofNat, TimeOfDay.isoText, fractionOf, fractionText, whole]

theorem fields_ofTime (t : TimeOfDay) : (ofTime t).fields = clockOf t := by
  simp only [fields, ofTime, Digits.value_ofNat, microsecond_fractionOf]
  rfl

end ClockText

namespace OffsetText

/-- Hours and minutes, and the seconds where there are any. -/
def sizeOf (s : Nat) (h : s < 86400) : SizeText :=
  have hour_lt : s / 3600 < 100 := by omega
  have minute_lt : s / 60 % 60 < 100 := by omega
  have second_lt : s % 60 < 100 := by omega
  if s % 60 = 0 then .minutes (.ofNat hour_lt (by decide)) true (.ofNat minute_lt (by decide))
  else .seconds (.ofNat hour_lt (by decide)) true (.ofNat minute_lt (by decide)) true
    (.ofNat second_lt (by decide))

@[simp] theorem total_sizeOf {s : Nat} (h : s < 86400) : (sizeOf s h).total = s := by
  by_cases whole : s % 60 = 0
  · rw [sizeOf, if_pos whole]
    simp only [SizeText.total, SizeText.hour, SizeText.minute, SizeText.second, Digits.value_ofNat]
    omega
  · rw [sizeOf, if_neg whole]
    simp only [SizeText.total, SizeText.hour, SizeText.minute, SizeText.second, Digits.value_ofNat]
    omega

def ofSeconds (seconds : Int) (h : -86400 < seconds ∧ seconds < 86400) : OffsetText :=
  .signed (seconds < 0) (sizeOf seconds.natAbs (by omega))

theorem text_ofSeconds {seconds : Int} (h : -86400 < seconds ∧ seconds < 86400) :
    (ofSeconds seconds h).text = UtcOffset.isoText seconds := by
  by_cases whole : seconds.natAbs % 60 = 0
  · simp [ofSeconds, text, sizeOf, whole, SizeText.text, SizeText.colonText, Digits.ofNat,
      UtcOffset.isoText]
  · simp [ofSeconds, text, sizeOf, whole, SizeText.text, SizeText.colonText, Digits.ofNat,
      UtcOffset.isoText]

@[simp] theorem seconds_ofSeconds {seconds : Int} (h : -86400 < seconds ∧ seconds < 86400) :
    (ofSeconds seconds h).seconds = seconds := by
  simp only [ofSeconds, OffsetText.seconds, total_sizeOf]
  by_cases west : seconds < 0
  · simp only [west, decide_true, if_true]
    omega
  · simp only [west, decide_false, Bool.false_eq_true, if_false]
    omega

end OffsetText

namespace TimestampText

/-- The text of a timestamp whose offset, where it has one, is less than a day. -/
def ofTimestamp (t : Timestamp) (h : ∀ o ∈ t.offset?, -86400 < o ∧ o < 86400) : TimestampText where
  date := .ofDate t.date
  separator := ' '
  separates := space_separates
  clock := .ofTime t.time
  offset := t.offset?.pmap OffsetText.ofSeconds h

variable {t : Timestamp} (h : ∀ o ∈ t.offset?, -86400 < o ∧ o < 86400)

theorem text_ofTimestamp : (ofTimestamp t h).text = t.isoText ' ' := by
  have offset : offsetText (t.offset?.pmap OffsetText.ofSeconds h) =
      (t.offset?.map UtcOffset.isoText).getD [] := by
    generalize t.offset? = known at h
    cases known with
    | none => rfl
    | some o => exact OffsetText.text_ofSeconds (h o rfl)
  simp only [text, ofTimestamp, DateText.text_ofDate, ClockText.text_ofTime, offset,
    Timestamp.isoText, List.append_assoc, List.cons_append]

theorem offset_ofTimestamp : (ofTimestamp t h).offset.map OffsetText.seconds = t.offset? := by
  rw [ofTimestamp]
  generalize t.offset? = known at h
  cases known with
  | none => rfl
  | some o => exact congrArg some (OffsetText.seconds_ofSeconds (h o rfl))

end TimestampText

/-- The minutes and the seconds that an offset is written with. -/
def OffsetText.minute : OffsetText → Nat
  | utc => 0
  | signed _ size => size.minute

def OffsetText.second : OffsetText → Nat
  | utc => 0
  | signed _ size => size.second

namespace TimestampText

/-- The date is one of the calendar, the time one of a day, and the offset, however its parts are
written, less than a day. -/
structure Exists (x : TimestampText) : Prop where
  date : DateExists x.date.year.value x.date.month.value x.date.day.value
  hour : x.clock.hour.value < 24
  minute : x.clock.minute.value < 60
  second : x.clock.second.value < 60
  offset : ∀ o ∈ x.offset, -86400 < o.seconds ∧ o.seconds < 86400

/-- No part of the offset makes up one of the part before it. -/
def Limited (x : TimestampText) : Prop := ∀ o ∈ x.offset, o.minute < 60 ∧ o.second < 60

/-- The date and the time that are written. -/
structure Shows (x : TimestampText) (t : Timestamp) : Prop where
  date : x.date.fields = fieldsOf t.date
  time : x.clock.fields = clockOf t.time
  fold : t.fold = false

theorem Exists.shows {x : TimestampText} (h : x.Exists) (zone : Option Zone) :
    ∃ t : Timestamp, x.Shows t ∧ t.zone = zone :=
  ⟨⟨⟨_, _, _, h.date⟩, ⟨_, _, _, _, h.hour, h.minute, h.second, ClockText.microsecond_lt _⟩, zone,
    false⟩, ⟨rfl, rfl, rfl⟩, rfl⟩

theorem Shows.exists {x : TimestampText} {t : Timestamp} (h : x.Shows t)
    (offset : ∀ o ∈ x.offset, -86400 < o.seconds ∧ o.seconds < 86400) : x.Exists := by
  obtain ⟨⟨year, month, day, valid⟩, ⟨hour, minute, second, microsecond, small⟩, zone, fold⟩ := t
  obtain ⟨rfl, rfl, rfl⟩ := DateFields.mk.inj h.date
  obtain ⟨rfl, rfl, rfl, -⟩ := ClockFields.mk.inj h.time
  exact ⟨valid, small.1, small.2.1, small.2.2.1, offset⟩

theorem shows_iff_wall {x : TimestampText} {t : Timestamp} (fold : t.fold = false) :
    x.Shows t ↔ x.fields.wall = .ok (t.date, t.time) := by
  constructor
  · rintro ⟨date, time, -⟩
    simp only [fields, TimestampFields.wall, date, time, date_fieldsOf, time_clockOf]
    rfl
  · intro h
    obtain ⟨date, made, h⟩ := Except.of_bind_eq_ok h
    obtain ⟨time, made', h⟩ := Except.of_bind_eq_ok h
    obtain ⟨rfl, rfl⟩ := Prod.mk.inj (Except.ok.inj h)
    exact ⟨date_eq_ok_iff.1 made, (time_eq_ok_iff (ClockText.microsecond_lt _)).1 made', fold⟩

theorem shows_ofTimestamp {t u : Timestamp} (h : ∀ o ∈ t.offset?, -86400 < o ∧ o < 86400)
    (date : u.date = t.date) (time : u.time = t.time) (fold : u.fold = false) :
    (ofTimestamp t h).Shows u := by
  refine ⟨?_, ?_, fold⟩
  · rw [date]
    exact DateText.fields_ofDate t.date
  · rw [time]
    exact ClockText.fields_ofTime t.time

end TimestampText

end RowStream.Calendar
