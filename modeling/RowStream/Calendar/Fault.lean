import RowStream.Text.Quoted

/-! What keeps numbers from being a date, a time of day, an offset or a zone. -/
namespace RowStream.Calendar

inductive Fault where
  | year (year : Nat)
  | month
  | day
  | hour
  | minute
  | second
  | offset (seconds : Int)
  | unknownZone (name : Text)
  | namelessZone
  | beyondCalendar
  deriving DecidableEq, Repr

/-- A span of seconds as days and the seconds of a day left over, zero parts left out. -/
def spanText (seconds : Int) : Text :=
  let days := seconds / 86400
  let rest := seconds % 86400
  let parts := (if days = 0 then [] else ["days=".toList ++ Text.ofInt days])
    ++ (if rest = 0 then [] else ["seconds=".toList ++ Text.ofInt rest])
  "datetime.timedelta(".toList
    ++ (if parts.isEmpty then ['0'] else Text.joined [',', ' '] parts) ++ [')']

def Fault.message : Fault → Text
  | .year y => "year ".toList ++ Text.ofNat y ++ " is out of range".toList
  | .month => "month must be in 1..12".toList
  | .day => "day is out of range for month".toList
  | .hour => "hour must be in 0..23".toList
  | .minute => "minute must be in 0..59".toList
  | .second => "second must be in 0..59".toList
  | .offset s =>
    ("offset must be a timedelta strictly between -timedelta(hours=24) and ".toList
      ++ "timedelta(hours=24), not ".toList) ++ spanText s ++ ['.']
  | .beyondCalendar => "date value out of range".toList
  | .unknownZone name => "Unknown timezone ".toList ++ Text.quoted name
  | .namelessZone => "A timezone has to have a name".toList

end RowStream.Calendar
