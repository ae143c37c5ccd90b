import RowStream.Calendar.Fault

/-! Dates of the Gregorian calendar, years 1 to 9999, and their numbering by days. -/
namespace RowStream

namespace Calendar

def isLeap (year : Nat) : Bool := year % 4 = 0 && (year % 100 ≠ 0 || year % 400 = 0)

def daysInMonth (year month : Nat) : Nat :=
  match month with
  | 2 => if isLeap year then 29 else 28
  | 4 | 6 | 9 | 11 => 30
  | _ => 31

def daysInYear (year : Nat) : Nat := if isLeap year then 366 else 365

def DateExists (year month day : Nat) : Prop :=
  1 ≤ year ∧ year ≤ 9999 ∧ 1 ≤ month ∧ month ≤ 12 ∧ 1 ≤ day ∧ day ≤ daysInMonth year month

instance (year month day : Nat) : Decidable (DateExists year month day) := by
  unfold DateExists; infer_instance

end Calendar

open Calendar

structure Date where
  year : Nat
  month : Nat
  day : Nat
  valid : DateExists year month day
  deriving DecidableEq, Repr

namespace Date

/-- The date, or the first of year, month and day that rules it out. -/
def ofFields (year month day : Nat) : Except Fault Date :=
  if h : DateExists year month day then .ok ⟨year, month, day, h⟩
  else if year < 1 ∨ 9999 < year then .error (.year year)
  else if month < 1 ∨ 12 < month then .error .month
  else .error .day

def epoch : Date := ⟨1970, 1, 1, by decide⟩

instance : Inhabited Date := ⟨epoch⟩

/-- The days of the years before `year`, counted from the first of January of year 1. -/
def daysBeforeYear (year : Nat) : Nat :=
  let y := year - 1
  365 * y + y / 4 - y / 100 + y / 400

def daysBeforeMonth (year : Nat) : (month : Nat) → Nat
  | 0 | 1 => 0
  | month + 2 => daysBeforeMonth year (month + 1) + daysInMonth year (month + 1)

/-- The number of the day; the first of January of year 1 has number 1. -/
def ordinalOf (year month day : Nat) : Nat :=
  daysBeforeYear year + daysBeforeMonth year month + day

def ordinal (d : Date) : Nat := ordinalOf d.year d.month d.day

/-- Walks from `year` to the year that holds the day with `days` days before it. -/
def yearWalk : (fuel year days : Nat) → Nat × Nat
  | 0, year, days => (year, days)
  | fuel + 1, year, days =>
    if days < daysInYear year then (year, days)
    else yearWalk fuel (year + 1) (days - daysInYear year)

def monthWalk (year : Nat) : (fuel month days : Nat) → Nat × Nat
  | 0, month, days => (month, days)
  | fuel + 1, month, days =>
    if days < daysInMonth year month then (month, days)
    else monthWalk year fuel (month + 1) (days - daysInMonth year month)

/-- The day with the given number, if it lies in years 1 to 9999. -/
def ofOrdinal? (n : Int) : Option Date :=
  if n < 1 then none
  else
    let days := (n - 1).toNat
    -- four centuries have the same number of days wherever they begin
    let (year, days) := yearWalk 400 (400 * (days / 146097) + 1) (days % 146097)
    let (month, days) := monthWalk year 12 1 days
    if h : DateExists year month (days + 1) then some ⟨year, month, days + 1, h⟩ else none

/-- The day of the week; Sunday is zero. -/
def weekdayOf (ordinal : Nat) : Nat := ordinal % 7

/-- Days since the first of January 1970. -/
def sinceEpoch (ordinal : Nat) : Int := ordinal - 719163

def isoText (d : Date) : Text :=
  Text.padded 4 d.year ++ '-' :: Text.padded 2 d.month ++ '-' :: Text.padded 2 d.day

end Date

end RowStream
