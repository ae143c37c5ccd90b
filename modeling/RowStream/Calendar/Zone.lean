import RowStream.Calendar.Region
import RowStream.Calendar.TimeOfDay
import RowStream.Text.Basic

/-! Zones: a fixed offset from UTC or a region, and the ways a caller may choose one. -/
namespace RowStream

open Calendar

inductive Zone where
  | fixed (offset : UtcOffset)
  | region (region : Region)
  deriving DecidableEq, Repr

namespace Zone

def utc : Zone := .fixed .zero

instance : Inhabited Zone := ⟨utc⟩

/-- The zone of a name. Blanks around it do not count, and neither does the letter case of UTC. -/
def ofName [ZoneDatabase] (name : Text) : Except Fault Zone :=
  let key := Text.trim name
  if Text.upper key = "UTC".toList then .ok utc
  else match ZoneDatabase.find? key with
    | some r => .ok (.region r)
    | none => .error (.unknownZone name)

/-- A region's name, or UTC and the offset unless it is zero. -/
def name : Zone → Text
  | .fixed o => "UTC".toList ++ if o.seconds = 0 then [] else UtcOffset.isoText o.seconds
  | .region r => r.name

/-- Seconds east of UTC at a wall clock reading. -/
def offsetAt (z : Zone) (year : Nat) (wall : Int) (fold : Bool) : Int :=
  match z with
  | .fixed o => o.seconds
  | .region r => r.offsetAt year wall fold

end Zone

/-- What a caller says about the zone of values that carry none. It may be that one is asked for
without a name. -/
inductive ZoneChoice where
  | unspecified
  | nameless
  | named (name : Text)
  | given (zone : Zone)
  deriving DecidableEq, Repr

/-- The zone chosen; UTC where nothing is said. -/
def ZoneChoice.zone [ZoneDatabase] : ZoneChoice → Except Fault Zone
  | .unspecified => .ok .utc
  | .nameless => .error .namelessZone
  | .named name => Zone.ofName name
  | .given zone => .ok zone

end RowStream
