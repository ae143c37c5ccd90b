import RowStream.Calendar.Timestamp
import RowStream.Number.Binary64

/-! Values that fields hold, with the names of their kinds and their forms inside messages. -/
namespace RowStream

inductive Value where
  | null
  | bool (b : Bool)
  | int (i : Int)
  | float (x : Binary64)
  | decimal (d : Decimal)
  | text (t : Text)
  | bytes (bytes : Bytes)
  | buffer (bytes : Bytes)
  | date (d : Date)
  | time (t : TimeOfDay) (offset : Option UtcOffset)
  | timestamp (t : Timestamp)
  | list (values : List Value)
  deriving Repr, Inhabited

namespace Value

def kindName : Value → Text
  | .null => "NoneType".toList
  | .bool _ => "bool".toList
  | .int _ => "int".toList
  | .float _ => "float".toList
  | .decimal _ => "Decimal".toList
  | .text _ => "str".toList
  | .bytes _ => "bytes".toList
  | .buffer _ => "bytearray".toList
  | .date _ => "date".toList
  | .time .. => "time".toList
  | .timestamp _ => "datetime".toList
  | .list _ => "list".toList

/-- A name applied to the texts of its arguments. -/
def callText (name : String) (arguments : List Text) : Text :=
  name.toList ++ '(' :: Text.joined [',', ' '] arguments ++ [')']

def zoneText : Zone → Text
  | .fixed o =>
    if o.seconds = 0 then "datetime.timezone.utc".toList
    else callText "datetime.timezone" [Calendar.spanText o.seconds]
  | .region r => callText "zoneinfo.ZoneInfo" ["key=".toList ++ Text.quoted r.name]

/-- Hour and minute always, seconds and microseconds where something is left to say. -/
def clockTexts (t : TimeOfDay) : List Text :=
  [Text.ofNat t.hour, Text.ofNat t.minute]
    ++ (if t.second = 0 ∧ t.microsecond = 0 then [] else [Text.ofNat t.second])
    ++ (if t.microsecond = 0 then [] else [Text.ofNat t.microsecond])

def zoneTexts (zone : Option Zone) : List Text :=
  zone.toList.map fun z => "tzinfo=".toList ++ zoneText z

def dateTexts (d : Date) : List Text := [Text.ofNat d.year, Text.ofNat d.month, Text.ofNat d.day]

def foldTexts (fold : Bool) : List Text := if fold then ["fold=1".toList] else []

mutual

/-- Whether a message can show the value: no integer in it is too long to be written. -/
def isWritable : Value → Bool
  | .int i => Text.isWritable i
  | .list values => areWritable values
  | _ => true

def areWritable : List Value → Bool
  | [] => true
  | v :: rest => v.isWritable && areWritable rest

end

mutual

/-- The form of a value inside a message. -/
def quoted : Value → Text
  | .null => "None".toList
  | .bool b => (if b then "True" else "False").toList
  | .int i => Text.ofInt i
  | .float x => x.text
  | .decimal d => callText "Decimal" ['\'' :: d.text ++ ['\'']]
  | .text t => Text.quoted t
  | .bytes b => Text.quotedBytes b
  | .buffer b => callText "bytearray" [Text.quotedBuffer b]
  | .date d => callText "datetime.date" (dateTexts d)
  | .time t offset => callText "datetime.time" (clockTexts t ++ zoneTexts (offset.map .fixed))
  | .timestamp t =>
    callText "datetime.datetime"
      (dateTexts t.date ++ clockTexts t.time ++ foldTexts t.fold ++ zoneTexts t.zone)
  | .list values => '[' :: Text.joined [',', ' '] (quotedAll values) ++ [']']

def quotedAll : List Value → List Text
  | [] => []
  | v :: rest => v.quoted :: quotedAll rest

end

end Value

end RowStream
