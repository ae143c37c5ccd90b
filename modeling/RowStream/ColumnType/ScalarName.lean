import RowStream.Error

/-! The names of scalar types, and the arguments that each admits. -/
namespace RowStream

/-- The scalar types that take their arguments in the same way. -/
inductive ScalarFamily where
  | integer (width : Nat) (signed : Bool)
  | float (width : Nat)
  | decimal
  | text
  | plain (kind : ScalarKind)
  | timestamp (zoned : Bool)
  deriving DecidableEq, Repr

namespace ScalarFamily

def integerNames : List (String × ScalarFamily) := [
  ("int8", .integer 8 true), ("int16", .integer 16 true), ("int32", .integer 32 true),
  ("int64", .integer 64 true), ("int128", .integer 128 true), ("int256", .integer 256 true),
  ("uint8", .integer 8 false), ("uint16", .integer 16 false), ("uint32", .integer 32 false),
  ("uint64", .integer 64 false), ("uint128", .integer 128 false), ("uint256", .integer 256 false),
  ("int", .integer 32 true), ("integer", .integer 32 true), ("int4", .integer 32 true),
  ("bigint", .integer 64 true), ("long", .integer 64 true), ("smallint", .integer 16 true),
  ("tinyint", .integer 8 true)]

def floatNames : List (String × ScalarFamily) := [
  ("float32", .float 32), ("real", .float 32), ("float4", .float 32), ("float64", .float 64),
  ("double", .float 64), ("double precision", .float 64), ("float8", .float 64),
  ("float", .float 64)]

def otherNames : List (String × ScalarFamily) := [
  ("decimal", .decimal), ("numeric", .decimal),
  ("text", .text), ("string", .text), ("varchar", .text), ("char", .text),
  ("boolean", .plain .boolean), ("bool", .plain .boolean), ("bytea", .plain .bytea),
  ("date", .plain .date), ("pgdate", .plain .date), ("date32", .plain .date),
  ("time", .plain .time),
  -- the type of a bare null
  ("nothing", .plain .text),
  ("timestamp", .timestamp false), ("timestampntz", .timestamp false),
  ("timestamp without time zone", .timestamp false), ("datetime", .timestamp false),
  ("datetime64", .timestamp false),
  ("timestamptz", .timestamp true), ("timestamp with time zone", .timestamp true)]

def names : List (String × ScalarFamily) := integerNames ++ floatNames ++ otherNames

def ofName? (name : Text) : Option ScalarFamily :=
  (names.find? fun entry => entry.1.toList = name).map (·.2)

def largestPrecision : Nat := 76

def defaultPrecision : Nat := 38

def numbers (arguments : List TagArgument) : List Nat :=
  arguments.filterMap fun
    | .number n => some n
    | .text _ => none

def texts (arguments : List TagArgument) : List Text :=
  arguments.filterMap fun
    | .number _ => none
    | .text t => some t

def TagArgument.isText : TagArgument → Bool
  | .number _ => false
  | .text _ => true

/-- Precision and scale of a decimal type. Without any argument the scale is left open. -/
def decimalAttributes (name : Text) (arguments : List TagArgument) : Except TagFault Attributes :=
  if arguments.any TagArgument.isText then .error (.integersOnly name)
  else
    let build (precision scale : Nat) : Except TagFault Attributes :=
      if precision < 1 ∨ largestPrecision < precision then .error (.precision precision)
      else if precision < scale then .error (.scale scale precision)
      else .ok { precision := some precision, scale := some scale }
    match numbers arguments with
    | [] => .ok { precision := some defaultPrecision }
    | [precision] => build precision 0
    | [precision, scale] => build precision scale
    | _ => .error (.atMostTwo name)

/-- A number of fraction digits, a zone, or both in this order. Naming a zone makes any timestamp
zoned. -/
def timestampType [ZoneDatabase] (zoned : Bool) (name : Text) (arguments : List TagArgument) :
    Except TagFault ColumnType :=
  let digits := numbers arguments
  let zones := texts arguments
  let zoneFirst := (arguments.head?.map TagArgument.isText).getD false
  if 1 < digits.length ∨ 1 < zones.length ∨ (zoneFirst ∧ digits ≠ []) then
    .error (.timestampArguments name arguments)
  else
    match digits.find? (9 < ·) with
    | some d => .error (.fractionDigits d)
    | none =>
      match zones with
      | [] => .ok (.scalar (if zoned then .timestamptz else .timestamp) {})
      | zone :: _ =>
        match Zone.ofName zone with
        | .error fault => .error (.calendar fault)
        | .ok _ => .ok (.scalar .timestamptz { timezone := some zone })

/-- The scalar type of a family under one of its names. -/
def build [ZoneDatabase] (family : ScalarFamily) (name : Text) (arguments : List TagArgument) :
    Except TagFault ColumnType :=
  let withoutArguments (t : ColumnType) : Except TagFault ColumnType :=
    if arguments.isEmpty then .ok t else .error (.noArguments name)
  match family with
  | .integer width signed => withoutArguments (.scalar .integer { width := some width, signed })
  | .float width => withoutArguments (.scalar .float { width := some width })
  | .plain kind => withoutArguments (.scalar kind {})
  | .decimal => (decimalAttributes name arguments).map (.scalar .decimal)
  | .text =>
    -- a length may be given, and does not bound the values
    if arguments.any TagArgument.isText then .error (.integersOnly name)
    else if 1 < arguments.length then .error (.atMostOne name)
    else .ok (.scalar .text {})
  | .timestamp zoned => timestampType zoned name arguments

end ScalarFamily

end RowStream
