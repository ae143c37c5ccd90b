import RowStream.Text.Basic

/-! Column types: scalars of ten kinds, and arrays of any depth. -/
namespace RowStream

inductive ScalarKind where
  | integer
  | float
  | decimal
  | text
  | boolean
  | bytea
  | date
  | time
  | timestamp
  | timestamptz
  deriving DecidableEq, Repr

def ScalarKind.name : ScalarKind → Text
  | .integer => "integer".toList
  | .float => "float".toList
  | .decimal => "decimal".toList
  | .text => "text".toList
  | .boolean => "boolean".toList
  | .bytea => "bytea".toList
  | .date => "date".toList
  | .time => "time".toList
  | .timestamp => "timestamp".toList
  | .timestamptz => "timestamptz".toList

/-- What is said about a type beside its kind. Width and sign tell integers apart, precision and
scale decimals, and the timezone is that of zoned timestamps without an offset. -/
structure Attributes where
  nullable : Bool := false
  width : Option Int := none
  signed : Bool := true
  precision : Option Int := none
  scale : Option Int := none
  timezone : Option Text := none
  deriving DecidableEq, Repr, Inhabited

inductive ColumnType where
  | scalar (kind : ScalarKind) (attributes : Attributes)
  | array (element : ColumnType) (attributes : Attributes)
  deriving DecidableEq, Repr

namespace ColumnType

/-- The type of the given parts: an element belongs to an array, which has no scalar kind. -/
def ofParts? : Option ScalarKind → Attributes → Option ColumnType → Option ColumnType
  | some kind, a, none => some (.scalar kind a)
  | none, a, some element => some (.array element a)
  | _, _, _ => none

def attributes : ColumnType → Attributes
  | .scalar _ a => a
  | .array _ a => a

def nullable (t : ColumnType) : Bool := t.attributes.nullable

/-- The same type with the nullability given. -/
def withNullable (nullable : Bool) : ColumnType → ColumnType
  | .scalar kind a => .scalar kind { a with nullable }
  | .array element a => .array element { a with nullable }

def isArray : ColumnType → Bool
  | .scalar .. => false
  | .array .. => true

def depth : ColumnType → Nat
  | .scalar .. => 0
  | .array element _ => element.depth + 1

/-- The innermost type, which is no array. -/
def leaf : ColumnType → ColumnType
  | .scalar kind a => .scalar kind a
  | .array element _ => element.leaf

def numberText : Option Int → Text
  | some n => Text.ofInt n
  | none => "None".toList

/-- The name of a scalar without its nullability. -/
def scalarName (kind : ScalarKind) (a : Attributes) : Text :=
  match kind with
  | .integer => (if a.signed then "int" else "uint").toList ++ numberText a.width
  | .float => "float".toList ++ numberText a.width
  | .decimal =>
    match a.scale with
    | some scale =>
      "decimal(".toList ++ numberText a.precision ++ ", ".toList ++ Text.ofInt scale ++ [')']
    | none => "decimal".toList
  | .timestamptz =>
    match a.timezone with
    | some (c :: zone) => "timestamptz('".toList ++ c :: zone ++ "')".toList
    | _ => "timestamptz".toList
  | kind => kind.name

def nullMarker (nullable : Bool) : Text := if nullable then " null".toList else []

/-- The canonical tag of the type. -/
def name : ColumnType → Text
  | .scalar kind a => scalarName kind a ++ nullMarker a.nullable
  | .array element a => "array(".toList ++ element.name ++ ')' :: nullMarker a.nullable

end ColumnType

end RowStream
