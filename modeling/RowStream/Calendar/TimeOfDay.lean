import RowStream.Calendar.Fault

/-! Times of day down to microseconds, and offsets from UTC. -/
namespace RowStream

open Calendar

structure TimeOfDay where
  hour : Nat
  minute : Nat
  second : Nat
  microsecond : Nat
  valid : hour < 24 ∧ minute < 60 ∧ second < 60 ∧ microsecond < 1000000
  deriving DecidableEq, Repr

namespace TimeOfDay

/-- The time, or the first of its parts that rules it out. Microseconds wrap around. -/
def ofFields (hour minute second microsecond : Nat) : Except Fault TimeOfDay :=
  if h : hour < 24 ∧ minute < 60 ∧ second < 60 then
    .ok ⟨hour, minute, second, microsecond % 1000000, by omega⟩
  else if 24 ≤ hour then .error .hour
  else if 60 ≤ minute then .error .minute
  else .error .second

def midnight : TimeOfDay := ⟨0, 0, 0, 0, by decide⟩

instance : Inhabited TimeOfDay := ⟨midnight⟩

/-- Whole seconds since midnight. -/
def seconds (t : TimeOfDay) : Nat := 3600 * t.hour + 60 * t.minute + t.second

/-- The time so many seconds after midnight, days taken off. -/
def ofSeconds (seconds microsecond : Nat) : TimeOfDay :=
  let s := seconds % 86400
  ⟨s / 3600, s / 60 % 60, s % 60, microsecond % 1000000, by omega⟩

def isoText (t : TimeOfDay) : Text :=
  Text.padded 2 t.hour ++ ':' :: Text.padded 2 t.minute ++ ':' :: Text.padded 2 t.second
    ++ if t.microsecond = 0 then [] else '.' :: Text.padded 6 t.microsecond

end TimeOfDay

/-- Seconds east of UTC, less than a day either way. -/
structure UtcOffset where
  seconds : Int
  valid : -86400 < seconds ∧ seconds < 86400
  deriving DecidableEq, Repr

namespace UtcOffset

def zero : UtcOffset := ⟨0, by decide⟩

instance : Inhabited UtcOffset := ⟨zero⟩

def ofSeconds (seconds : Int) : Except Fault UtcOffset :=
  if h : -86400 < seconds ∧ seconds < 86400 then .ok ⟨seconds, h⟩ else .error (.offset seconds)

/-- A sign, hours and minutes, and the seconds where there are any. -/
def isoText (seconds : Int) : Text :=
  let s := seconds.natAbs
  (if seconds < 0 then '-' else '+') :: Text.padded 2 (s / 3600) ++ ':'
    :: Text.padded 2 (s / 60 % 60) ++ if s % 60 = 0 then [] else ':' :: Text.padded 2 (s % 60)

end UtcOffset

end RowStream
