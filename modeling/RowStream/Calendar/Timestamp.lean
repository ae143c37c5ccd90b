import RowStream.Calendar.Zone

/-! Timestamps: a date and a time of day, on the wall clock of a zone where one is known. -/
namespace RowStream

open Calendar

/-- With `fold`, the second of two equal readings of the wall clock. -/
structure Timestamp where
  date : Date
  time : TimeOfDay
  zone : Option Zone
  fold : Bool
  deriving DecidableEq, Repr, Inhabited

namespace Timestamp

def naive (date : Date) (time : TimeOfDay) : Timestamp := ⟨date, time, none, false⟩

/-- The wall clock's seconds since 1970. -/
def wallSeconds (t : Timestamp) : Int :=
  Date.sinceEpoch t.date.ordinal * 86400 + t.time.seconds

/-- Seconds east of UTC, where there is a zone. -/
def offset? (t : Timestamp) : Option Int :=
  t.zone.map fun z => z.offsetAt t.date.year t.wallSeconds t.fold

/-- The reading of the wall clock so many seconds earlier. -/
def earlier? (t : Timestamp) (seconds : Int) : Option (Date × TimeOfDay) :=
  let s := (t.date.ordinal : Int) * 86400 + t.time.seconds - seconds
  (Date.ofOrdinal? (s / 86400)).map fun d =>
    (d, TimeOfDay.ofSeconds (s % 86400).toNat t.time.microsecond)

/-- The instant of a timestamp, in UTC. One without a zone is read in the chosen one. -/
def inUtc [ZoneDatabase] (t : Timestamp) (choice : ZoneChoice) : Except Fault Timestamp := do
  let zone ← match t.zone with
    | some zone => pure zone
    | none => choice.zone
  if zone = .utc then pure { t with zone := some zone }
  else
    let t := { t with zone := some zone }
    match t.earlier? (t.offset?.getD 0) with
    | some (date, time) => pure ⟨date, time, some .utc, false⟩
    | none => throw .beyondCalendar

/-- The time of day in UTC, of a time alone on the first of January 1970. -/
def utcTime [ZoneDatabase] (t : Timestamp) (choice : ZoneChoice) : Except Fault TimeOfDay :=
  return (← t.inUtc choice).time

def isoText (separator : Char) (t : Timestamp) : Text :=
  t.date.isoText ++ separator :: t.time.isoText ++ (t.offset?.map UtcOffset.isoText).getD []

end Timestamp

end RowStream
