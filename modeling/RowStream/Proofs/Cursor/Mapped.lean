import RowStream.Proofs.Cursor.Operation
import RowStream.Proofs.Response.Mapped

/-! Cursors over sources that behave alike answer alike. -/
namespace RowStream.Cursor

section Access

variable {σ τ : Type}

def map (f : σ → τ) (c : Cursor σ) : Cursor τ :=
  { reader := c.reader.map f, columns := c.columns, statement := c.statement,
    notified := c.notified, position := c.position, failed := c.failed, cache := c.cache,
    wasNull := c.wasNull }

variable (f : σ → τ) (c : Cursor σ)

theorem currentRow_map : (c.map f).currentRow = c.currentRow := rfl

theorem readField_map [ZoneDatabase] (i : Nat) :
    (c.map f).readField i = ((c.readField i).1, (c.readField i).2.map f) := by
  have kept : (c.map f).cache = c.cache := rfl
  have columns : (c.map f).columns = c.columns := rfl
  rw [readField, readField, currentRow_map, kept, columns]
  cases c.currentRow with
  | error e => rfl
  | ok tokens =>
    dsimp only
    cases c.cache.lookup i with
    | some v => rfl
    | none =>
      dsimp only
      cases fieldValue c.columns tokens i <;> rfl

theorem readRef_map [ZoneDatabase] (ref : ColumnRef) :
    (c.map f).readRef ref = ((c.readRef ref).1, (c.readRef ref).2.map f) := by
  have columns : (c.map f).columns = c.columns := rfl
  rw [readRef, readRef, columns]
  cases Column.indexOf c.columns ref with
  | error e => rfl
  | ok i => exact readField_map f c i

theorem readAs_map [ZoneDatabase] {α : Type} (ref : ColumnRef) (absent : α)
    (convert : Value → Except Error α) :
    (c.map f).readAs ref absent convert =
      ((c.readAs ref absent convert).1, (c.readAs ref absent convert).2.map f) := by
  rw [readAs, readAs, readRef_map]
  rcases c.readRef ref with ⟨e | v, d⟩
  · rfl
  · cases v <;> rfl

theorem getText_map [ZoneDatabase] (ref : ColumnRef) :
    (c.map f).getText ref = ((c.getText ref).1, (c.getText ref).2.map f) := by
  have columns : (c.map f).columns = c.columns := rfl
  rw [getText, getText, columns]
  cases Column.indexOf c.columns ref with
  | error e => rfl
  | ok i =>
    dsimp only
    rw [readField_map]
    rcases c.readField i with ⟨e | v, d⟩
    · rfl
    · cases v <;> rfl

theorem readFields_map [ZoneDatabase] (columns : List Column) (i : Nat) (row : Row) (c : Cursor σ) :
    readFields i row columns (c.map f) =
      ((readFields i row columns c).1, (readFields i row columns c).2.map f) := by
  induction columns generalizing i row c with
  | nil => rfl
  | cons column columns ih =>
    rw [readFields, readFields, readField_map]
    rcases c.readField i with ⟨e | v, d⟩
    · rfl
    · exact ih ..

theorem row_map [ZoneDatabase] : (c.map f).row = (c.row.1, c.row.2.map f) := by
  rw [row, row, currentRow_map]
  cases c.currentRow with
  | error e => rfl
  | ok tokens => exact readFields_map f c.columns 0 [] c

theorem access_map [ZoneDatabase] (q : Access) :
    (c.map f).access q = ((c.access q).1, (c.access q).2.map f) := by
  cases q with
  | columns | column | findColumn | wasNull => rfl
  | value ref => exact congrArg (answered _) (readRef_map f c ref)
  | text ref => exact congrArg (answered _) (getText_map f c ref)
  | row => exact congrArg (answered _) (row_map f c)
  | int | float | bool | decimal | bytes | date | time | timestamp | list =>
    exact congrArg (answered _) (readAs_map f c _ _ _)

end Access

variable {σ τ : Type} [Source σ] [Source τ] {f : σ → τ}

theorem advance_map (h : Source.Preserves f) (c : Cursor σ) :
    (c.map f).advance = (c.advance.1, c.advance.2.map f) := by
  have position : (c.map f).position = c.position := rfl
  have next : (c.map f).reader.next = (c.reader.next.1, c.reader.next.2.map f) :=
    RecordReader.next_map h c.reader
  simp only [advance, position, next]
  cases c.position with
  | closed | afterLast => rfl
  | beforeFirst | onRow => rcases c.reader.next with ⟨e | _ | tokens, reader⟩ <;> rfl

theorem isLast_map (h : Source.Preserves f) (c : Cursor σ) :
    (c.map f).isLast = (c.isLast.1, c.isLast.2.map f) := by
  have position : (c.map f).position = c.position := rfl
  have peek : (c.map f).reader.peek = (c.reader.peek.1, c.reader.peek.2.map f) :=
    RecordReader.peek_map h c.reader
  simp only [isLast, position, peek]
  cases c.position with
  | beforeFirst | closed | afterLast => rfl
  | onRow => rcases c.reader.peek with ⟨e | record, reader⟩ <;> rfl

theorem release_map (h : Source.Preserves f) (c : Cursor σ) :
    (c.map f).release = c.release.map f := by
  have closed : Source.close (c.map f).reader.source = _ := h.close c.reader.source
  rw [release, closed]
  rfl

theorem notify_map (h : Source.Preserves f) (c : Cursor σ) :
    (c.map f).notify = (c.notify.1, c.notify.2.map f) := by
  have same : (c.map f).statement = c.statement := rfl
  rw [notify, notify, same]
  cases c.statement with
  | none => rfl
  | some statement =>
    have notified : (c.map f).notified = c.notified := rfl
    have told : Source.statementClosed (c.map f).reader.source = _ :=
      h.statementClosed c.reader.source
    dsimp only
    rw [notified, told]
    cases !c.notified && statement.closeOnCompletion <;> rfl

theorem close_map (h : Source.Preserves f) (c : Cursor σ) :
    (c.map f).close = (c.close.1, c.close.2.map f) := by
  have same : (c.map f).isClosed = c.isClosed := rfl
  rw [close, close, same, release_map h]
  cases c.isClosed with
  | true => rfl
  | false => exact notify_map h c.release

theorem perform_map [ZoneDatabase] (h : Source.Preserves f) (c : Cursor σ) (op : Operation) :
    (c.map f).perform op = ((c.perform op).1, (c.perform op).2.map f) := by
  cases op with
  | access q => exact access_map f c q
  | move m =>
    cases m with
    | advance => exact congrArg (answered _) (advance_map h c)
    | isLast => exact congrArg (answered _) (isLast_map h c)
    | close => exact congrArg (answered _) (close_map h c)
    | isBeforeFirst | isFirst | isAfterLast | rowNumber => rfl

theorem run_map [ZoneDatabase] (h : Source.Preserves f) (c : Cursor σ) (ops : List Operation) :
    (c.map f).run ops = ((c.run ops).1, (c.run ops).2.map f) := by
  induction ops generalizing c with
  | nil => rfl
  | cons op ops ih =>
    rw [run, run, perform_map h]
    dsimp only
    rw [ih]
    rfl

/-- Opening fails on the image as it fails on the source, and otherwise gives the image of its
cursor. -/
theorem openOn_map [ZoneDatabase] (h : Source.Preserves f) (source : σ) (origin : Origin)
    (statement : Option Statement) :
    openOn (f source) origin statement =
      match openOn source origin statement with
      | .error (e, s) => .error (e, f s)
      | .ok c => .ok (c.map f) := by
  have header := RecordReader.readHeader_map h (RecordReader.of source)
  have start : (RecordReader.of source).map f = RecordReader.of (f source) := rfl
  rw [start] at header
  simp only [openOn, header]
  cases (RecordReader.of source).readHeader.1 >>= Column.ofHeader origin with
  | error e =>
    refine congrArg (fun s => Except.error (e, s)) ?_
    exact congrArg Prod.snd (h.close _)
  | ok columns => rfl

end RowStream.Cursor
