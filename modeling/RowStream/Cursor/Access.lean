import RowStream.Cursor.Basic
import RowStream.Value.Conversion

/-! Reading the fields of the row that a cursor is on. -/
namespace RowStream.Cursor

variable {σ : Type} [ZoneDatabase]

/-- The tokens of the current row. -/
def currentRow (c : Cursor σ) : Except Error (List Text) :=
  match c.position with
  | .closed => .error (.state .closed)
  | .beforeFirst => .error (.state .beforeFirst)
  | .afterLast => .error (.state .afterLast)
  | .onRow _ tokens => .ok tokens

/-- The value of a token in the column of the same index. -/
def fieldValue (columns : List Column) (tokens : List Text) (i : Nat) : Except Error Value :=
  match columns[i]?, tokens[i]? with
  | some column, some token => column.type.decode token
  | _, _ => .ok .null

def isNull : Value → Bool
  | .null => true
  | _ => false

/-- Reads the field of an index, decoding it unless the row's cache has its value already. Without
a row nothing is read, and nothing remembered. -/
def readField (c : Cursor σ) (i : Nat) : Except Error Value × Cursor σ :=
  match c.currentRow with
  | .error e => (.error e, c)
  | .ok tokens =>
    match c.cache.lookup i with
    | some v => (.ok v, { c with wasNull := some (isNull v) })
    | none =>
      match fieldValue c.columns tokens i with
      | .error e => (.error e, { c with wasNull := none })
      | .ok v => (.ok v, { c with wasNull := some (isNull v), cache := (i, v) :: c.cache })

/-- Reads the field that a reference means. -/
def readRef (c : Cursor σ) (ref : ColumnRef) : Except Error Value × Cursor σ :=
  match Column.indexOf c.columns ref with
  | .error e => (.error e, c)
  | .ok i => c.readField i

/-- Reads a field as another type, null as `absent`. -/
def readAs {α : Type} (c : Cursor σ) (ref : ColumnRef) (absent : α)
    (convert : Value → Except Error α) : Except Error α × Cursor σ :=
  match c.readRef ref with
  | (.error e, c) => (.error e, c)
  | (.ok .null, c) => (.ok absent, c)
  | (.ok value, c) => (convert value, c)

def getValue (c : Cursor σ) (ref : ColumnRef) : Except Error Value × Cursor σ := c.readRef ref

def getInt (c : Cursor σ) (ref : ColumnRef) : Except Error Int × Cursor σ :=
  c.readAs ref 0 Value.toInt

def getFloat (c : Cursor σ) (ref : ColumnRef) : Except Error Binary64 × Cursor σ :=
  c.readAs ref (.zero false) Value.toFloat

def getBool (c : Cursor σ) (ref : ColumnRef) : Except Error Bool × Cursor σ :=
  c.readAs ref false Value.toBool

def getDecimal (c : Cursor σ) (ref : ColumnRef) (places : Option Int) :
    Except Error (Option Decimal) × Cursor σ :=
  c.readAs ref none fun v => some <$> v.toDecimal places

def getBytes (c : Cursor σ) (ref : ColumnRef) : Except Error (Option Bytes) × Cursor σ :=
  c.readAs ref none fun v => some <$> v.toBytes

def getDate (c : Cursor σ) (ref : ColumnRef) (zone : ZoneChoice) :
    Except Error (Option Date) × Cursor σ :=
  c.readAs ref none fun v => some <$> v.toDate zone

/-- The time of day in UTC. -/
def getTime (c : Cursor σ) (ref : ColumnRef) (zone : ZoneChoice) :
    Except Error (Option TimeOfDay) × Cursor σ :=
  c.readAs ref none fun v => some <$> v.toTime zone

/-- The instant in UTC. -/
def getTimestamp (c : Cursor σ) (ref : ColumnRef) (zone : ZoneChoice) :
    Except Error (Option Timestamp) × Cursor σ :=
  c.readAs ref none fun v => some <$> v.toTimestamp zone

def getList (c : Cursor σ) (ref : ColumnRef) : Except Error (Option (List Value)) × Cursor σ :=
  c.readAs ref none fun v => some <$> v.toList

/-- The token of a field with its escapes resolved, once it has been read as its type. -/
def getText (c : Cursor σ) (ref : ColumnRef) : Except Error (Option Text) × Cursor σ :=
  match Column.indexOf c.columns ref with
  | .error e => (.error e, c)
  | .ok i =>
    match c.readField i with
    | (.error e, c) => (.error e, c)
    | (.ok .null, c) => (.ok none, c)
    | (.ok _, c) =>
      (.ok (some (Token.unescape ((c.currentRow.toOption.bind (·[i]?)).getD []))), c)

/-- A row by column names, in the order of their first columns. -/
abbrev Row := List (Text × Value)

/-- Adds a field unless there is one of its name. -/
def Row.insert (row : Row) (name : Text) (value : Value) : Row :=
  if row.any fun field => field.1 = name then row else row ++ [(name, value)]

/-- Puts a value in the place of that of the name. -/
def Row.replace (row : Row) (name : Text) (value : Value) : Row :=
  row.map fun field => if field.1 = name then (name, value) else field

/-- Reads the fields from an index on, and keeps the first of each name. -/
def readFields (i : Nat) (row : Row) : List Column → Cursor σ → Except Error Row × Cursor σ
  | [], c => (.ok row, c)
  | column :: rest, c =>
    match c.readField i with
    | (.error e, c) => (.error e, c)
    | (.ok value, c) => readFields (i + 1) (Row.insert row column.name value) rest c

/-- The current row, every field of it read. -/
def row (c : Cursor σ) : Except Error Row × Cursor σ :=
  match c.currentRow with
  | .error e => (.error e, c)
  | .ok _ => readFields 0 [] c.columns c

end RowStream.Cursor
