import RowStream.Column
import RowStream.Value.Basic

/-! Cursors over the rows of a result: opening, moving forward and closing. -/
namespace RowStream

/-- The statement a result belongs to. Its closes are counted. -/
structure Statement where
  closeOnCompletion : Bool
  closeFails : Bool
  closes : Nat
  deriving DecidableEq, Repr

def Statement.close (s : Statement) : Except Error Unit × Statement :=
  (if s.closeFails then .error .statement else .ok (), { s with closes := s.closes + 1 })

/-- Where a cursor stands. Rows are numbered from one. -/
inductive Position where
  | beforeFirst
  | onRow (number : Nat) (tokens : List Text)
  | afterLast
  | closed
  deriving DecidableEq, Repr

/-- `failed` says that an error ended the rows early, `wasNull` whether the last value read was
null, if it could be read. The values read from the row are kept in `cache` under their indices,
and `notified` says that the statement has been closed. -/
structure Cursor (σ : Type) where
  reader : RecordReader σ
  columns : List Column
  statement : Option Statement
  notified : Bool
  position : Position
  failed : Bool
  cache : List (Nat × Value)
  wasNull : Option Bool

namespace Cursor

variable {σ : Type} [Source σ]

/-- Reads the header and resolves the types. Where that fails, the source is closed and handed
back with the error, which a failing close does not change. -/
def openOn [ZoneDatabase] (source : σ) (origin : Origin) (statement : Option Statement) :
    Except (Error × σ) (Cursor σ) :=
  let (header, reader) := (RecordReader.of source).readHeader
  match header >>= Column.ofHeader origin with
  | .error e => .error (e, (Source.close reader.source).2)
  | .ok columns => .ok ⟨reader, columns, statement, false, .beforeFirst, false, [], none⟩

def isClosed (c : Cursor σ) : Bool := c.position = .closed

def checkOpen (c : Cursor σ) : Except Error Unit :=
  if c.isClosed then .error (.state .closed) else .ok ()

/-- The cursor after an error that ends its rows. -/
def fail (c : Cursor σ) (reader : RecordReader σ) : Cursor σ :=
  { c with reader, failed := true, position := .afterLast, cache := [] }

/-- Rows that a cursor has moved to so far, while it is on one of them or before them. -/
def rowsPassed : Position → Nat
  | .onRow number _ => number
  | _ => 0

/-- Moves to the next row. After the last one, or an error, there is none for good. -/
def advance (c : Cursor σ) : Except Error Bool × Cursor σ :=
  match c.position with
  | .closed => (.error (.state .closed), c)
  | .afterLast => (.ok false, c)
  | position =>
    match c.reader.next with
    | (.error e, reader) => (.error e, c.fail reader)
    | (.ok none, reader) => (.ok false, { c with reader, position := .afterLast, cache := [] })
    | (.ok (some tokens), reader) =>
      (.ok true,
        { c with reader, position := .onRow (rowsPassed position + 1) tokens, cache := [] })

/-- Whether the row the cursor is on is the last one, which takes a look at the next record. -/
def isLast (c : Cursor σ) : Except Error Bool × Cursor σ :=
  match c.position with
  | .closed => (.error (.state .closed), c)
  | .onRow .. =>
    match c.reader.peek with
    | (.error e, reader) => (.error e, c.fail reader)
    | (.ok record, reader) => (.ok record.isNone, { c with reader })
  | _ => (.ok false, c)

def isBeforeFirst (c : Cursor σ) : Except Error Bool := do
  c.checkOpen
  return c.position = .beforeFirst

def isFirst (c : Cursor σ) : Except Error Bool := do
  c.checkOpen
  return rowsPassed c.position = 1

def isAfterLast (c : Cursor σ) : Except Error Bool := do
  c.checkOpen
  return c.position = .afterLast

/-- The number of the row the cursor is on; zero off a row. -/
def rowNumber (c : Cursor σ) : Except Error Nat := do
  c.checkOpen
  return rowsPassed c.position

def openColumns (c : Cursor σ) : Except Error (List Column) := do
  c.checkOpen
  return c.columns

def findColumn (c : Cursor σ) (ref : ColumnRef) : Except Error Nat := do
  c.checkOpen
  return (← Column.indexOf c.columns ref) + 1

def column (c : Cursor σ) (ref : ColumnRef) : Except Error Column := do
  c.checkOpen
  let i ← Column.indexOf c.columns ref
  match c.columns[i]? with
  | some column => return column
  | none => throw (.lookup (.position (i + 1) c.columns.length))

/-- Whether the last value that was read is null. -/
def lastWasNull (c : Cursor σ) : Except Error Bool := do
  c.checkOpen
  match c.wasNull with
  | some b => return b
  | none => throw (.state .nothingRead)

/-- Closes the source. What it says does not matter. -/
def release (c : Cursor σ) : Cursor σ :=
  { c with
    reader := { c.reader with source := (Source.close c.reader.source).2 }
    position := .closed
    cache := [] }

/-- Closes the statement if it asks for that and has not been closed. -/
def notify (c : Cursor σ) : Except Error Unit × Cursor σ :=
  match c.statement with
  | none => (.ok (), c)
  | some statement =>
    if !c.notified && statement.closeOnCompletion then
      let (result, statement) := statement.close
      let source := Source.statementClosed c.reader.source
      (result, { c with
        reader := { c.reader with source }
        statement := some statement
        notified := true })
    else (.ok (), c)

/-- Closes the source, then the statement. A closed cursor stays as it is. -/
def close (c : Cursor σ) : Except Error Unit × Cursor σ :=
  if c.isClosed then (.ok (), c) else c.release.notify

end Cursor

end RowStream
