import RowStream.Cursor.Rows
import RowStream.Dump.Json
import RowStream.Settings
import RowStream.Source.File

/-! All rows of a response as JSON, one object to a line, with timestamps in UTC. -/
namespace RowStream

/-- The lines printed, and the error that ended them early. -/
structure Dump where
  lines : List Text
  failure : Option Error

namespace Dump

variable {σ : Type} [ZoneDatabase]

def isTimestamp (column : Column) : Bool :=
  match column.type with
  | .scalar .timestamp _ | .scalar .timestamptz _ => true
  | _ => false

def timestampNames (columns : List Column) : List Text :=
  (columns.filter isTimestamp).map Column.name

/-- Puts the instants of the columns named in the places of their values. -/
def withInstants (zone : ZoneChoice) (row : Cursor.Row) :
    List Text → Cursor σ → Except Error Cursor.Row × Cursor σ
  | [], c => (.ok row, c)
  | name :: rest, c =>
    match c.getTimestamp (.name name) zone with
    | (.error e, c) => (.error e, c)
    | (.ok instant, c) =>
      let value := (instant.map Value.timestamp).getD .null
      withInstants zone (Cursor.Row.replace row name value) rest c

/-- The current row as it is printed. -/
def row (zone : ZoneChoice) (names : List Text) (c : Cursor σ) :
    Except Error Cursor.Row × Cursor σ :=
  match c.row with
  | (.error e, c) => (.error e, c)
  | (.ok row, c) => withInstants zone row names c

theorem reader_readAs {α : Type} (c : Cursor σ) (ref : ColumnRef) (absent : α)
    (convert : Value → Except Error α) : (c.readAs ref absent convert).2.reader = c.reader := by
  have read : (c.readRef ref).2.reader = c.reader := by
    simp only [Cursor.readRef]
    split
    · rfl
    · exact Cursor.reader_readField c _
  simp only [Cursor.readAs]
  split <;> simp_all

theorem reader_withInstants (zone : ZoneChoice) (row : Cursor.Row) (names : List Text)
    (c : Cursor σ) : (withInstants zone row names c).2.reader = c.reader := by
  induction names generalizing row c with
  | nil => rfl
  | cons name rest ih =>
    have : (c.getTimestamp (.name name) zone).2.reader = c.reader := reader_readAs c _ _ _
    simp only [withInstants]
    split <;> simp_all

theorem reader_row (zone : ZoneChoice) (names : List Text) (c : Cursor σ) :
    (row zone names c).2.reader = c.reader := by
  have := Cursor.reader_row c
  simp only [row]
  split
  · simp_all
  · simp_all [reader_withInstants]

/-- Dumps what a cursor has left. -/
def ofCursor [Source σ] (zone : ZoneChoice) (c : Cursor σ) : Dump :=
  let names := timestampNames c.columns
  let (rows, result, _) := c.forRows (row zone names) (reader_row zone names)
  ⟨rows.map fun row => (Json.ofRow row).print, match result with
    | .ok _ => none
    | .error e => some e⟩

/-- Dumps the content of a file. -/
def ofContent (env : Environment) (zone : ZoneChoice) (table : Option Text) (content : Bytes) :
    Dump :=
  match env.pieceSize none with
  | .error e => ⟨[], some e⟩
  | .ok pieceSize =>
    let source := FileSource.ofBytes .disk content pieceSize
    match Cursor.openOn source { tableName := table } none with
    | .error (e, _) => ⟨[], some e⟩
    | .ok cursor => ofCursor zone cursor

end Dump

end RowStream
