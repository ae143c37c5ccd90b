import RowStream.Proofs.Calendar.Days
import RowStream.Proofs.Calendar.Written
import RowStream.Proofs.Number.Rational

/-! Instants as counts of microseconds since 1970. What a clock shows at an offset is moved by that
offset to what a clock in UTC shows, unless there is no date for it. -/
namespace RowStream

open Calendar

namespace TimeOfDay

theorem seconds_ofSeconds {s : Nat} (day : s < 86400) (microsecond : Nat) :
    (ofSeconds s microsecond).seconds = s := by
  simp only [seconds, ofSeconds, Nat.mod_eq_of_lt day]
  omega

theorem seconds_lt (t : TimeOfDay) : t.seconds < 86400 := by
  obtain ⟨hour, minute, second, -⟩ := t.valid
  rw [seconds]
  omega

/-- A time of day is known by its seconds and microseconds. -/
theorem eq_of_seconds {t u : TimeOfDay} (same : t.seconds = u.seconds)
    (same' : t.microsecond = u.microsecond) : t = u := by
  obtain ⟨hour, minute, second, microsecond, valid⟩ := t
  obtain ⟨hour', minute', second', microsecond', valid'⟩ := u
  simp only [seconds] at same same'
  rw [mk.injEq]
  refine ⟨by omega, by omega, by omega, same'⟩

end TimeOfDay

namespace Timestamp

variable {t u : Timestamp} {m : Int}

/-- The wall clock's microseconds since 1970. -/
def wallMicroseconds (t : Timestamp) : Int := t.wallSeconds * 1000000 + t.time.microsecond

/-- The first and the last reading of a clock. -/
def first : Timestamp := ⟨⟨1, 1, 1, by decide⟩, .midnight, some .utc, false⟩

def last : Timestamp :=
  ⟨⟨9999, 12, 31, by decide⟩, ⟨23, 59, 59, 999999, by decide⟩, some .utc, false⟩

/-- A clock in UTC can show so many microseconds since 1970: the years are 1 to 9999. -/
def InCalendar (m : Int) : Prop := first.wallMicroseconds ≤ m ∧ m ≤ last.wallMicroseconds

instance (m : Int) : Decidable (InCalendar m) := inferInstanceAs (Decidable (_ ∧ _))

/-- What a clock in UTC shows so many microseconds after 1970 began. -/
structure ShowsInstant (u : Timestamp) (m : Int) : Prop where
  zone : u.zone = some .utc
  fold : u.fold = false
  count : u.wallMicroseconds = m

theorem wallMicroseconds_eq (t : Timestamp) : t.wallMicroseconds =
    (((t.date.ordinal : Int) - 719163) * 86400 + t.time.seconds) * 1000000 + t.time.microsecond :=
  rfl

/-- Two clocks that have counted as many microseconds show the same. -/
theorem ShowsInstant.unique (h : t.ShowsInstant m) (h' : u.ShowsInstant m) : t = u := by
  have same := h.count.trans h'.count.symm
  rw [wallMicroseconds_eq, wallMicroseconds_eq] at same
  have day := t.time.seconds_lt
  have day' := u.time.seconds_lt
  have small := t.time.valid.2.2.2
  have small' := u.time.valid.2.2.2
  have date : t.date = u.date := Date.ordinal_injective (by omega)
  have time : t.time = u.time := TimeOfDay.eq_of_seconds (by omega) (by omega)
  obtain ⟨_, _, _, _⟩ := t
  obtain ⟨_, _, _, _⟩ := u
  rw [mk.injEq]
  exact ⟨date, time, h.zone.trans h'.zone.symm, h.fold.trans h'.fold.symm⟩

/-- An instant lies in the calendar if the day in which it falls has a number there. -/
theorem inCalendar_iff {s : Int} {microsecond : Nat} (small : microsecond < 1000000) :
    InCalendar ((s - 719163 * 86400) * 1000000 + microsecond) ↔
      1 ≤ s / 86400 ∧ s / 86400 ≤ 3652059 := by
  have first_eq : first.wallMicroseconds = (1 - 719163) * 86400 * 1000000 := rfl
  have last_eq : last.wallMicroseconds =
      ((3652059 - 719163) * 86400 + 86399) * 1000000 + 999999 := rfl
  rw [InCalendar, first_eq, last_eq]
  omega

theorem inCalendar_wallMicroseconds (t : Timestamp) : InCalendar t.wallMicroseconds := by
  have count : t.wallMicroseconds = ((t.date.ordinal : Int) * 86400 + t.time.seconds -
      719163 * 86400) * 1000000 + t.time.microsecond := by
    rw [wallMicroseconds_eq]
    omega
  have bounds := t.date.ordinal_bounds
  have day := t.time.seconds_lt
  rw [count, inCalendar_iff t.time.valid.2.2.2]
  omega

/-- The reading so many seconds earlier, if that is one of the calendar. -/
theorem earlier?_spec (t : Timestamp) (seconds : Int) :
    (∃ date time, t.earlier? seconds = some (date, time) ∧
      ShowsInstant ⟨date, time, some .utc, false⟩ (t.wallMicroseconds - seconds * 1000000)) ∨
    t.earlier? seconds = none ∧ ¬ InCalendar (t.wallMicroseconds - seconds * 1000000) := by
  have small := t.time.valid.2.2.2
  have count : t.wallMicroseconds - seconds * 1000000 =
      ((t.date.ordinal : Int) * 86400 + t.time.seconds - seconds - 719163 * 86400) * 1000000 +
        t.time.microsecond := by
    rw [wallMicroseconds_eq]
    omega
  rw [earlier?, count]
  generalize (t.date.ordinal : Int) * 86400 + t.time.seconds - seconds = s
  rw [inCalendar_iff small, ← Date.exists_ordinal_iff]
  cases found : Date.ofOrdinal? (s / 86400) with
  | none =>
    refine .inr ⟨rfl, ?_⟩
    rintro ⟨d, number⟩
    rw [Date.ofOrdinal?_eq_some_iff.2 number] at found
    cases found
  | some d =>
    have number := Date.ofOrdinal?_eq_some_iff.1 found
    have day : (s % 86400).toNat < 86400 := by omega
    refine .inl ⟨d, _, rfl, rfl, rfl, ?_⟩
    have seconds := TimeOfDay.seconds_ofSeconds day t.time.microsecond
    have microsecond : (TimeOfDay.ofSeconds (s % 86400).toNat t.time.microsecond).microsecond =
        t.time.microsecond := Nat.mod_eq_of_lt small
    rw [wallMicroseconds_eq, seconds, microsecond, number]
    omega

/-- A timestamp with an offset is, whatever zone is chosen, the instant that lies by this offset
before what it shows. -/
theorem inUtc_of_offset [ZoneDatabase] {o : UtcOffset} (zoned : t.zone = some (.fixed o))
    (once : t.fold = false) (instant : t.wallMicroseconds - o.seconds * 1000000 = m) :
    (∃ u, u.ShowsInstant m ∧ ∀ choice, t.inUtc choice = .ok u) ∨
    (¬ InCalendar m ∧ ∀ choice, t.inUtc choice = .error .beyondCalendar) := by
  subst instant
  obtain ⟨date, time, zone, fold⟩ := t
  obtain rfl : zone = some (.fixed o) := zoned
  obtain rfl : fold = false := once
  by_cases utc : Zone.fixed o = .utc
  · -- In UTC already: the reading is returned as it is.
    obtain rfl : o = .zero := by
      cases utc
      rfl
    refine .inl ⟨_, ⟨rfl, rfl, ?_⟩, fun choice => rfl⟩
    exact (Int.sub_zero _).symm
  · obtain ⟨date', time', found, shows⟩ | ⟨none, beyond⟩ :=
      earlier?_spec ⟨date, time, some (.fixed o), false⟩ o.seconds
    · refine .inl ⟨_, shows, fun choice => ?_⟩
      simp only [inUtc, pure_bind, if_neg utc, offset?, Option.map_some, Option.getD_some,
        Zone.offsetAt, found]
      rfl
    · refine .inr ⟨beyond, fun choice => ?_⟩
      simp only [inUtc, pure_bind, if_neg utc, offset?, Option.map_some, Option.getD_some,
        Zone.offsetAt, none]
      rfl

/-- The count of the instant that a timestamp stands for, one without a zone in the zone given. -/
def instantIn (z : Zone) (t : Timestamp) : Int :=
  t.wallMicroseconds - (t.zone.getD z).offsetAt t.date.year t.wallSeconds t.fold * 1000000

theorem inUtc_of_zone [ZoneDatabase] {z : Zone} (zoned : t.zone = some z)
    (inside : InCalendar (t.instantIn z)) (choice : ZoneChoice) : ∃ u, t.inUtc choice = .ok u := by
  obtain ⟨date, time, zone, fold⟩ := t
  obtain rfl : zone = some z := zoned
  by_cases utc : z = .utc
  · exact ⟨_, if_pos utc⟩
  · obtain ⟨date', time', found, -⟩ | ⟨-, beyond⟩ := earlier?_spec ⟨date, time, some z, fold⟩
      (z.offsetAt date.year (wallSeconds ⟨date, time, some z, fold⟩) fold)
    · refine ⟨⟨date', time', some .utc, false⟩, ?_⟩
      simp only [inUtc, pure_bind, if_neg utc, offset?, Option.map_some, Option.getD_some, found]
      rfl
    · exact absurd inside beyond

/-- A timestamp of the calendar's years in UTC is moved there, out of its zone or the one given. -/
theorem inUtc_of_inCalendar [ZoneDatabase] {choice : ZoneChoice} {z : Zone}
    (resolved : choice.zone = .ok z) (inside : InCalendar (t.instantIn z)) :
    ∃ u, t.inUtc choice = .ok u := by
  obtain ⟨date, time, zone, fold⟩ := t
  cases zone with
  | some own => exact inUtc_of_zone (t := ⟨date, time, some own, fold⟩) rfl inside choice
  | none =>
    have placed : inUtc ⟨date, time, none, fold⟩ choice =
        inUtc ⟨date, time, some z, fold⟩ choice := by
      rw [inUtc, resolved]
      rfl
    rw [placed]
    exact inUtc_of_zone (t := ⟨date, time, some z, fold⟩) rfl inside choice

end Timestamp

theorem Text.Writes.append {t u : Text} {n m : Nat} (h : t.Writes n) (h' : u.Writes m) :
    (t ++ u).Writes (n * Nat.pow 10 u.length + m) := by
  refine ⟨List.forall_mem_append.2 ⟨h.digits, h'.digits⟩, ?_⟩
  rw [List.filterMap_append, Numeral.numberOf_append, h.value, h'.value,
    Text.length_filterMap_digit? h'.digits]

namespace Calendar

open Text (numberOf digit?)

/-- Microseconds of a second from the digits behind the point, rounded down. -/
def ClockText.truncated : Option Fraction → Nat
  | none => 0
  | some f => numberOf (f.text.filterMap digit?) * 1000000 / Nat.pow 10 f.text.length

/-- To cut digits off is to round down. -/
theorem ClockText.microsecond_eq_truncated (f : Option Fraction) : microsecond f = truncated f := by
  cases f with
  | none => rfl
  | some f =>
    have zeros : Text.Writes (List.replicate 6 '0') 0 := ⟨by simp, rfl⟩
    have million : Nat.pow 10 6 = 1000000 := rfl
    have whole := Text.Writes.append ⟨f.digits, rfl⟩ zeros
    rw [List.length_replicate, million, Nat.add_zero] at whole
    have rest : Text.Writes ((f.text ++ List.replicate 6 '0').drop 6) _ :=
      ⟨fun c mem => whole.digits c (List.mem_of_mem_drop mem), rfl⟩
    have length : ((f.text ++ List.replicate 6 '0').drop 6).length = f.text.length := by simp
    have less := rest.lt
    -- The digits that count come first, and the others are worth less than one microsecond.
    have parts := f.writes_sixPlaces.append rest
    rw [Fraction.sixPlaces, List.take_append_drop, length] at parts
    rw [length] at less
    have split := whole.value.symm.trans parts.value
    rw [truncated, split]
    symm
    apply Nat.div_eq_of_lt_le
    · exact Nat.le_add_right _ _
    · rw [Nat.succ_mul]
      exact Nat.add_lt_add_left less _

/-- The count of microseconds since 1970 that a timestamp's date and time of day stand for. -/
def TimestampText.wallMicroseconds (x : TimestampText) : Int :=
  let day := Date.sinceEpoch
    (Date.ordinalOf x.date.year.value x.date.month.value x.date.day.value)
  let second := 3600 * x.clock.hour.value + 60 * x.clock.minute.value + x.clock.second.value
  (day * 86400 + second) * 1000000 + ClockText.truncated x.clock.fraction

/-- What a timestamp shows has this count. -/
theorem TimestampText.wallMicroseconds_eq {x : TimestampText} {t : Timestamp} (h : x.Shows t) :
    t.wallMicroseconds = x.wallMicroseconds := by
  obtain ⟨year, month, day⟩ := DateFields.mk.inj h.date
  obtain ⟨hour, minute, second, microsecond⟩ := ClockFields.mk.inj h.time
  rw [wallMicroseconds, ← ClockText.microsecond_eq_truncated, year, month, day, hour, minute,
    second, microsecond]
  rfl

end Calendar

end RowStream
