import RowStream.Calendar.Date

/-! Regions that share a civil time: the changes of their offset that are on record, and the rule
for the years after the last one. -/
namespace RowStream

open Calendar

/-- A weekday of a month and a second counted from the start of that day. Week five is the last one
of the month. -/
structure WeekdayOfMonth where
  month : Nat
  week : Nat
  weekday : Nat
  second : Int
  deriving DecidableEq, Repr

/-- The wall clock's seconds since 1970 at which it falls in a year. -/
def WeekdayOfMonth.inYear (w : WeekdayOfMonth) (year : Nat) : Int :=
  let first := Date.weekdayOf (Date.ordinalOf year w.month 1)
  let day := 1 + (w.weekday + 7 - first) % 7 + 7 * (w.week - 1)
  let day := if daysInMonth year w.month < day then day - 7 else day
  Date.sinceEpoch (Date.ordinalOf year w.month day) * 86400 + w.second

/-- The offsets of the years without recorded changes. Either season may have the larger one. -/
inductive YearlyRule where
  | constant (offset : Int)
  | seasonal (standard summer : Int) (starts ends : WeekdayOfMonth)
  deriving DecidableEq, Repr

/-- The wall clock reading from which a change at the UTC second `t` counts. A reading that the
change skips or repeats belongs to the old offset, and with `fold` to the new one. -/
def wallChange (fold : Bool) (t old new : Int) : Int :=
  t + if fold then min old new else max old new

def YearlyRule.offsetAt (rule : YearlyRule) (year : Nat) (wall : Int) (fold : Bool) : Int :=
  match rule with
  | .constant offset => offset
  | .seasonal standard summer starts ends =>
    let first := wallChange fold (starts.inYear year - standard) standard summer
    let last := wallChange fold (ends.inYear year - summer) summer standard
    let inSummer := if first < last then first ≤ wall && wall < last
      else !(last ≤ wall && wall < first)
    if inSummer then summer else standard

structure Region where
  name : Text
  /-- The offset before the first change. -/
  first : Int
  /-- UTC seconds since 1970, and the offset from then on. -/
  changes : List (Int × Int)
  later : YearlyRule
  deriving DecidableEq, Repr

namespace Region

/-- The offset in force by the recorded changes, or none past the last of them. -/
def recorded? (fold : Bool) (wall : Int) : (old : Int) → List (Int × Int) → Option Int
  | _, [] => none
  | old, (t, new) :: rest =>
    if wall < wallChange fold t old new then some old else recorded? fold wall new rest

/-- The offset of a wall clock reading, in seconds since 1970, that lies in the given year. -/
def offsetAt (r : Region) (year : Nat) (wall : Int) (fold : Bool) : Int :=
  (recorded? fold wall r.first r.changes).getD (r.later.offsetAt year wall fold)

end Region

/-- A time zone database: the regions there are, by their names. -/
class ZoneDatabase where
  find? : Text → Option Region

/-- What is laid down for the names of regions: none of them is empty, or holds a quote or a
backslash. -/
structure ZoneDatabase.PlainNames [ZoneDatabase] : Prop where
  named : find? [] = none
  quotable : ∀ name region, find? name = some region → ∀ c ∈ name, c ≠ '\'' ∧ c ≠ '\\'

end RowStream
