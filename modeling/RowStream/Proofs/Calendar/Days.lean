import RowStream.Calendar.Date

/-! The numbering of days. The days of the calendar, one after the other, have the numbers from one
on, and every number up to the last is that of one day. -/
namespace RowStream

namespace Calendar

/-- Spans that follow one another without a gap from number one on; `before` is where each of them
begins. -/
def Adjoin (before size : Nat → Nat) : Prop := ∀ k, 1 ≤ k → before (k + 1) = before k + size k

/-- The walk goes on from span to span until what is left of the way ends inside one. -/
structure Walks (size : Nat → Nat) (walk : Nat → Nat → Nat → Nat × Nat) : Prop where
  stop : ∀ k n, walk 0 k n = (k, n)
  step : ∀ fuel k n,
    walk (fuel + 1) k n = if n < size k then (k, n) else walk fuel (k + 1) (n - size k)

section Spans

variable {before size : Nat → Nat} {j k m n : Nat}

theorem Adjoin.le (h : Adjoin before size) (first : 1 ≤ j) (le : j ≤ k) : before j ≤ before k := by
  induction le with
  | refl => exact Nat.le_refl _
  | @step k le ih =>
    rw [h k (Nat.le_trans first le)]
    exact Nat.le_trans ih (Nat.le_add_right _ _)

/-- What lies inside a span lies before every later one. -/
theorem Adjoin.lt (h : Adjoin before size) (first : 1 ≤ j) (inside : m < size j) (later : j < k) :
    before j + m < before k := by
  have next := h.le (Nat.le_succ_of_le first) later
  rw [h j first] at next
  omega

theorem Adjoin.unique (h : Adjoin before size) (first : 1 ≤ j) (first' : 1 ≤ k)
    (inside : m < size j) (inside' : n < size k) (same : before j + m = before k + n) :
    j = k ∧ m = n := by
  obtain lt | rfl | gt := Nat.lt_trichotomy j k
  · have earlier := h.lt first inside lt
    omega
  · exact ⟨rfl, by omega⟩
  · have earlier := h.lt first' inside' gt
    omega

/-- With fuel for the whole way, a walk ends inside the span that the way leads to. -/
theorem Walks.ends {walk : Nat → Nat → Nat → Nat × Nat} (w : Walks size walk)
    (h : Adjoin before size) {fuel : Nat} (first : 1 ≤ k)
    (room : before k + n < before (k + fuel)) : ∃ j m, walk fuel k n = (j, m) ∧
      k ≤ j ∧ j < k + fuel ∧ m < size j ∧ before j + m = before k + n := by
  induction fuel generalizing k n with
  | zero => exact absurd room (by simp)
  | succ fuel ih =>
    rw [w.step]
    by_cases inside : n < size k
    · rw [if_pos inside]
      exact ⟨k, n, rfl, Nat.le_refl _, by omega, inside, rfl⟩
    · -- Seen from the next span, the way leads to the same place.
      have onward : before (k + 1) + (n - size k) = before k + n := by
        rw [h k first]
        omega
      have shift : k + (fuel + 1) = k + 1 + fuel := by omega
      rw [← onward, shift] at room
      obtain ⟨j, m, walked, after, short, within, same⟩ := ih (Nat.le_succ_of_le first) room
      rw [if_neg inside]
      exact ⟨j, m, walked, by omega, by omega, within, same.trans onward⟩

end Spans

open Date

theorem years_adjoin : Adjoin daysBeforeYear daysInYear := by
  intro year first
  obtain ⟨y, rfl⟩ : ∃ y, year = y + 1 := ⟨year - 1, by omega⟩
  -- Each count of leap years goes on by one where its divisor divides the year.
  have fourth : (y + 1) / 4 = y / 4 + if (y + 1) % 4 = 0 then 1 else 0 := by split <;> omega
  have century : (y + 1) / 100 = y / 100 + if (y + 1) % 100 = 0 then 1 else 0 := by
    split <;> omega
  have round : (y + 1) / 400 = y / 400 + if (y + 1) % 400 = 0 then 1 else 0 := by split <;> omega
  have fewer : y / 100 ≤ y / 4 := by omega
  have of_century : (y + 1) % 100 = 0 → (y + 1) % 4 = 0 := by omega
  have of_round : (y + 1) % 400 = 0 → (y + 1) % 100 = 0 := by omega
  simp only [daysBeforeYear, daysInYear, isLeap, Nat.add_sub_cancel, Bool.and_eq_true,
    Bool.or_eq_true, decide_eq_true_eq, fourth, century, round]
  generalize y / 4 = a at *
  generalize y / 100 = b at *
  generalize y / 400 = c at *
  by_cases leap : (y + 1) % 4 = 0
  · by_cases skipped : (y + 1) % 100 = 0
    · by_cases kept : (y + 1) % 400 = 0
      · simp only [leap, skipped, kept, ne_eq, not_true, false_or, and_self, if_true]
        omega
      · simp only [leap, skipped, kept, ne_eq, not_true, false_or, and_false, if_true, if_false]
        omega
    · simp only [leap, skipped, mt of_round skipped, ne_eq, not_false_eq_true, true_or, and_self,
        if_true, if_false]
      omega
  · have skipped := mt of_century leap
    simp only [leap, skipped, mt of_round skipped, false_and, if_false]
    omega

theorem months_adjoin (year : Nat) : Adjoin (daysBeforeMonth year) (daysInMonth year) := by
  intro month first
  obtain ⟨m, rfl⟩ : ∃ m, month = m + 1 := ⟨month - 1, by omega⟩
  rfl

/-- The months make up the year. -/
theorem daysBeforeMonth_thirteen (year : Nat) : daysBeforeMonth year 13 = daysInYear year := by
  simp only [daysBeforeMonth, daysInMonth, daysInYear]
  split <;> rfl

theorem yearWalk_walks : Walks daysInYear yearWalk := ⟨fun _ _ => rfl, fun _ _ _ => rfl⟩

theorem monthWalk_walks (year : Nat) : Walks (daysInMonth year) (monthWalk year) :=
  ⟨fun _ _ => rfl, fun _ _ _ => rfl⟩

/-- A day of the calendar in whatever year. -/
structure IsDay (year month day : Nat) : Prop where
  counted : 1 ≤ year
  in_year : 1 ≤ month ∧ month ≤ 12
  in_month : 1 ≤ day ∧ day ≤ daysInMonth year month

theorem dateExists_iff {year month day : Nat} :
    DateExists year month day ↔ IsDay year month day ∧ year ≤ 9999 := by
  constructor
  · rintro ⟨counted, small, month, month', day, day'⟩
    exact ⟨⟨counted, ⟨month, month'⟩, day, day'⟩, small⟩
  · rintro ⟨⟨counted, month, day⟩, small⟩
    exact ⟨counted, small, month.1, month.2, day.1, day.2⟩

namespace IsDay

variable {year month day year' month' day' : Nat}

theorem days_lt (h : IsDay year month day) :
    daysBeforeMonth year month + (day - 1) < daysInYear year := by
  have last := h.in_year.2
  have inside : day - 1 < daysInMonth year month := by
    have := h.in_month
    omega
  rw [← daysBeforeMonth_thirteen]
  exact (months_adjoin year).lt h.in_year.1 inside (by omega)

theorem ordinalOf_eq (h : IsDay year month day) : ordinalOf year month day =
    daysBeforeYear year + (daysBeforeMonth year month + (day - 1)) + 1 := by
  have := h.in_month.1
  rw [ordinalOf]
  omega

/-- No two days have the same number. -/
theorem unique (h : IsDay year month day) (h' : IsDay year' month' day')
    (same : ordinalOf year month day = ordinalOf year' month' day') :
    year = year' ∧ month = month' ∧ day = day' := by
  rw [h.ordinalOf_eq, h'.ordinalOf_eq] at same
  obtain ⟨rfl, left⟩ :=
    years_adjoin.unique h.counted h'.counted h.days_lt h'.days_lt (Nat.succ.inj same)
  have := h.in_month
  have := h'.in_month
  obtain ⟨rfl, left⟩ :=
    (months_adjoin year).unique h.in_year.1 h'.in_year.1 (by omega) (by omega) left
  exact ⟨rfl, rfl, by omega⟩

/-- Only later years have greater numbers than year 9999. -/
theorem year_le_iff (h : IsDay year month day) :
    year ≤ 9999 ↔ ordinalOf year month day ≤ 3652059 := by
  have last : daysBeforeYear 10000 = 3652059 := rfl
  rw [h.ordinalOf_eq]
  constructor
  · intro small
    have within := years_adjoin.lt h.counted h.days_lt (Nat.lt_succ_of_le small)
    rwa [last] at within
  · intro small
    apply Nat.le_of_not_lt
    intro late
    have later := years_adjoin.le (j := 10000) (by decide) late
    omega

end IsDay

end Calendar

open Calendar

namespace Date

variable {d e : Date} {n : Int}

theorem isDay (d : Date) : IsDay d.year d.month d.day := (dateExists_iff.1 d.valid).1

theorem ordinal_bounds (d : Date) : 1 ≤ d.ordinal ∧ d.ordinal ≤ 3652059 := by
  have small := d.isDay.year_le_iff.1 (dateExists_iff.1 d.valid).2
  have some := d.isDay.in_month.1
  exact ⟨Nat.le_trans some (Nat.le_add_left _ _), small⟩

/-- No two dates have the same number. -/
theorem ordinal_injective (same : d.ordinal = e.ordinal) : d = e := by
  obtain ⟨year, month, day⟩ := d.isDay.unique e.isDay same
  obtain ⟨_, _, _, _⟩ := d
  obtain ⟨_, _, _, _⟩ := e
  cases year
  cases month
  cases day
  rfl

/-- The search for the day of a number finds a day with that number, in whatever year. -/
theorem exists_isDay (n : Nat) : ∃ year month day, IsDay year month day ∧
    ordinalOf year month day = n + 1 ∧ ofOrdinal? (n + 1 : Nat) =
      if h : DateExists year month day then some ⟨year, month, day, h⟩ else none := by
  have start : daysBeforeYear (400 * (n / 146097) + 1) = 146097 * (n / 146097) := by
    rw [daysBeforeYear]
    omega
  have room : daysBeforeYear (400 * (n / 146097) + 1) + n % 146097 <
      daysBeforeYear (400 * (n / 146097) + 1 + 400) := by
    simp only [daysBeforeYear]
    omega
  obtain ⟨year, left, walked, first, -, inside, same⟩ :=
    yearWalk_walks.ends years_adjoin (by omega) room
  have room' : daysBeforeMonth year 1 + left < daysBeforeMonth year (1 + 12) := by
    rw [daysBeforeMonth_thirteen, daysBeforeMonth]
    omega
  obtain ⟨month, day, walked', first', last, inside', same'⟩ :=
    (monthWalk_walks year).ends (months_adjoin year) (Nat.le_refl 1) room'
  have isDay : IsDay year month (day + 1) := by
    refine ⟨by omega, ⟨first', by omega⟩, by omega, inside'⟩
  refine ⟨year, month, day + 1, isDay, ?_, ?_⟩
  · rw [isDay.ordinalOf_eq, Nat.add_sub_cancel, same', daysBeforeMonth]
    omega
  · rw [ofOrdinal?, if_neg (by omega)]
    simp only [show ((n + 1 : Nat) - 1 : Int).toNat = n by omega, walked, walked']

/-- The date of a number is the one that has it. -/
theorem ofOrdinal?_eq_some_iff : ofOrdinal? n = some d ↔ (d.ordinal : Int) = n := by
  constructor
  · intro found
    by_cases low : n < 1
    · rw [ofOrdinal?, if_pos low] at found
      cases found
    · obtain ⟨m, rfl⟩ : ∃ m : Nat, n = (m + 1 : Nat) := ⟨(n - 1).toNat, by omega⟩
      obtain ⟨year, month, day, -, number, eq⟩ := exists_isDay m
      rw [eq] at found
      split at found
      · cases found
        exact congrArg Nat.cast number
      · cases found
  · rintro rfl
    have bounds := d.ordinal_bounds
    obtain ⟨m, known⟩ : ∃ m, d.ordinal = m + 1 := ⟨d.ordinal - 1, by omega⟩
    obtain ⟨year, month, day, isDay, number, eq⟩ := exists_isDay m
    obtain ⟨rfl, rfl, rfl⟩ := isDay.unique d.isDay (number.trans known.symm)
    rw [known, eq, dif_pos d.valid]

/-- The numbers of dates are those from one to that of the last day of year 9999. -/
theorem exists_ordinal_iff : (∃ d : Date, (d.ordinal : Int) = n) ↔ 1 ≤ n ∧ n ≤ 3652059 := by
  constructor
  · rintro ⟨d, rfl⟩
    have bounds := d.ordinal_bounds
    omega
  · rintro ⟨low, high⟩
    obtain ⟨m, rfl⟩ : ∃ m : Nat, n = (m + 1 : Nat) := ⟨(n - 1).toNat, by omega⟩
    obtain ⟨year, month, day, isDay, number, -⟩ := exists_isDay m
    have small : year ≤ 9999 := isDay.year_le_iff.2 (by omega)
    exact ⟨⟨year, month, day, dateExists_iff.2 ⟨isDay, small⟩⟩, congrArg Nat.cast number⟩

/-- The count starts with the first of January of year 1. -/
example : (⟨1, 1, 1, by decide⟩ : Date).ordinal = 1 := rfl

end Date

end RowStream
