import RowStream.Cursor.Access

/-! What may be asked of a cursor, and runs of such operations. -/
namespace RowStream.Cursor

/-- Moving on, closing, and asking where the cursor is. -/
inductive Move where
  | advance
  | isLast
  | isBeforeFirst
  | isFirst
  | isAfterLast
  | rowNumber
  | close
  deriving DecidableEq, Repr

/-- Asking for columns and for the fields of the current row. -/
inductive Access where
  | columns
  | column (ref : ColumnRef)
  | findColumn (ref : ColumnRef)
  | wasNull
  | value (ref : ColumnRef)
  | text (ref : ColumnRef)
  | int (ref : ColumnRef)
  | float (ref : ColumnRef)
  | bool (ref : ColumnRef)
  | decimal (ref : ColumnRef) (places : Option Int)
  | bytes (ref : ColumnRef)
  | date (ref : ColumnRef) (zone : ZoneChoice)
  | time (ref : ColumnRef) (zone : ZoneChoice)
  | timestamp (ref : ColumnRef) (zone : ZoneChoice)
  | list (ref : ColumnRef)
  | row
  deriving DecidableEq, Repr

inductive Operation where
  | move (m : Move)
  | access (a : Access)
  deriving DecidableEq, Repr

inductive Answer where
  | done
  | truth (b : Bool)
  | number (n : Nat)
  | value (v : Value)
  | column (c : Column)
  | columns (columns : List Column)
  | row (row : Row)

def answered {α β : Type} (f : α → Answer) (result : Except Error α × β) :
    Except Error Answer × β :=
  (result.1.map f, result.2)

/-- A value that may be absent. -/
def optional {α : Type} (f : α → Value) (a : Option α) : Answer := .value ((a.map f).getD .null)

variable {σ : Type} [Source σ]

def move (c : Cursor σ) : Move → Except Error Answer × Cursor σ
  | .advance => answered .truth c.advance
  | .isLast => answered .truth c.isLast
  | .isBeforeFirst => answered .truth (c.isBeforeFirst, c)
  | .isFirst => answered .truth (c.isFirst, c)
  | .isAfterLast => answered .truth (c.isAfterLast, c)
  | .rowNumber => answered .number (c.rowNumber, c)
  | .close => answered (fun _ => .done) c.close

omit [Source σ] in
def access [ZoneDatabase] (c : Cursor σ) : Access → Except Error Answer × Cursor σ
  | .columns => answered .columns (c.openColumns, c)
  | .column ref => answered .column (c.column ref, c)
  | .findColumn ref => answered .number (c.findColumn ref, c)
  | .wasNull => answered .truth (c.lastWasNull, c)
  | .value ref => answered .value (c.getValue ref)
  | .text ref => answered (optional .text) (c.getText ref)
  | .int ref => answered (fun i => .value (.int i)) (c.getInt ref)
  | .float ref => answered (fun x => .value (.float x)) (c.getFloat ref)
  | .bool ref => answered (fun b => .value (.bool b)) (c.getBool ref)
  | .decimal ref places => answered (optional .decimal) (c.getDecimal ref places)
  | .bytes ref => answered (optional .bytes) (c.getBytes ref)
  | .date ref zone => answered (optional .date) (c.getDate ref zone)
  | .time ref zone => answered (optional fun t => .time t (some .zero)) (c.getTime ref zone)
  | .timestamp ref zone => answered (optional .timestamp) (c.getTimestamp ref zone)
  | .list ref => answered (optional .list) (c.getList ref)
  | .row => answered .row c.row

def perform [ZoneDatabase] (c : Cursor σ) : Operation → Except Error Answer × Cursor σ
  | .move m => c.move m
  | .access a => c.access a

/-- An operation that was performed, its answer, and the row the cursor was on after it. -/
structure Event where
  operation : Operation
  answer : Except Error Answer
  row : Option (List Text)

def run [ZoneDatabase] (c : Cursor σ) : List Operation → List Event × Cursor σ
  | [] => ([], c)
  | op :: rest =>
    let (answer, after) := c.perform op
    let (events, last) := after.run rest
    (⟨op, answer, after.currentRow.toOption⟩ :: events, last)

theorem notify_frame (c : Cursor σ) : ∃ source statement notified,
    c.notify.2 = { c with reader := { c.reader with source }, statement, notified } := by
  rw [notify]
  split
  · exact ⟨_, _, _, rfl⟩
  · split <;> exact ⟨_, _, _, rfl⟩

/-- A move changes neither the columns nor what `wasNull` remembers. -/
theorem move_frame (c : Cursor σ) (m : Move) :
    (c.move m).2.columns = c.columns ∧ (c.move m).2.wasNull = c.wasNull := by
  cases m with
  | advance =>
    simp only [move, answered, advance]
    split
    · exact ⟨rfl, rfl⟩
    · exact ⟨rfl, rfl⟩
    · split <;> exact ⟨rfl, rfl⟩
  | isLast =>
    simp only [move, answered, isLast]
    split
    · exact ⟨rfl, rfl⟩
    · split <;> exact ⟨rfl, rfl⟩
    · exact ⟨rfl, rfl⟩
  | close =>
    simp only [move, answered, close]
    split
    · exact ⟨rfl, rfl⟩
    · obtain ⟨source, statement, notified, frame⟩ := notify_frame c.release
      rw [frame]
      exact ⟨rfl, rfl⟩
  | isBeforeFirst | isFirst | isAfterLast | rowNumber => exact ⟨rfl, rfl⟩

end RowStream.Cursor
